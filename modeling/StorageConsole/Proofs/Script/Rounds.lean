import StorageConsole.Client.Command
import StorageConsole.Proofs.Script.Interleaving

/-! Running scripts together is one of the orders in which scripts in flight may take their turns.
-/

namespace StorageConsole

open Script

lemma World.save_withReplies (w : World) (replies : List Http.Reply) (name : String)
    (blob : Download.Blob) :
    ({ w with replies := replies } : World).save name blob =
      ((w.save name blob).1, { (w.save name blob).2 with replies := replies }) := by
  simp only [save]
  split
  · rename_i sink _
    cases sink <;> rfl
  · rfl

namespace Script

variable {α : Type}

inductive Steps : Script α → World → Script α → World → Prop
  | refl (s : Script α) (w : World) : Steps s w s w
  | head {s t : Script α} {w v : World} : Steps (s.step w).1 (s.step w).2 t v → Steps s w t v

lemma advance_steps (s : Script α) (w : World) : Steps s w (s.advance w).1 (s.advance w).2 := by
  induction s generalizing w with
  | done a => exact .refl _ _
  | send r next => exact .head (.refl _ _)
  | readPage next ih => exact .head (ih _ _)
  | readClock next ih => exact .head (ih _ _)
  | visit path next ih => exact .head (ih _)
  | navigate path next ih => exact .head (ih _)
  | log event next ih => exact .head (ih _)
  | note sighting next ih => exact .head (ih _)
  | save name blob next ih => exact .head (ih _ _)

lemma run_steps (s : Script α) (w : World) : Steps s w (done (s.run w).1) (s.run w).2 := by
  induction s generalizing w with
  | done a => exact .refl _ _
  | send r next ih => exact .head (ih _ _)
  | readPage next ih => exact .head (ih _ _)
  | readClock next ih => exact .head (ih _ _)
  | visit path next ih => exact .head (ih _)
  | navigate path next ih => exact .head (ih _)
  | log event next ih => exact .head (ih _)
  | note sighting next ih => exact .head (ih _)
  | save name blob next ih => exact .head (ih _ _)

end Script

namespace InFlight

variable {α : Type} {s : InFlight α} {stages stages' : List (Stage α)} {w w' : World}

def Matches (s : InFlight α) (w : World) : Prop := s.world = { w with replies := s.world.replies }

lemma Matches.pages (h : s.Matches w) : s.world.pages = w.pages := by
  unfold Matches at h
  rw [h]

def Arrives (s : InFlight α) (stages : List (Stage α)) (w : World) : Prop :=
  ∃ turns, (s.play turns).stages = stages ∧ (s.play turns).Matches w

lemma play_append (s : InFlight α) (turns more : List Turn) :
    s.play (turns ++ more) = (s.play turns).play more :=
  List.foldl_append

lemma Arrives.trans (h : s.Arrives stages w)
    (hnext : ∀ s' : InFlight α, s'.stages = stages → s'.Matches w → s'.Arrives stages' w') :
    s.Arrives stages' w' := by
  obtain ⟨turns, hstages, hw⟩ := h
  obtain ⟨more, hstages', hw'⟩ := hnext _ hstages hw
  refine ⟨turns ++ more, ?_, ?_⟩
  · rw [play_append, hstages']
  · rwa [play_append]

lemma arrives_self {place : Nat} {stage : Stage α} (hstage : s.stages[place]? = some stage)
    (hw : s.Matches w) : s.Arrives (s.stages.set place stage) w := by
  obtain ⟨hplace, hget⟩ := List.getElem?_eq_some_iff.mp hstage
  refine ⟨[], ?_, hw⟩
  show s.stages = s.stages.set place stage
  rw [← hget, List.set_getElem_self]

lemma turn_arrives {place : Nat} {stage stage' : Stage α} {deed : Deed} (reply : Http.Reply)
    (hstage : s.stages[place]? = some stage)
    (hstep : stage.step reply s.world = some (deed, stage'))
    (hw : s.world.after deed = { w with replies := (s.world.after deed).replies }) :
    s.Arrives (s.stages.set place stage') w := by
  have hturn : s.play [⟨place, reply⟩] = s.did place deed stage' := by
    simp [play, turn, hstage, hstep]
  refine ⟨[⟨place, reply⟩], ?_, ?_⟩
  · rw [hturn]
    rfl
  · rw [hturn]
    exact hw

lemma step_arrives {script : Script α} {place : Nat}
    (hstage : s.stages[place]? = some (.acting script)) (hw : s.Matches w) :
    s.Arrives (s.stages.set place (.acting (script.step w).1)) (script.step w).2 := by
  have hplace := (List.getElem?_eq_some_iff.mp hstage).1
  have hsame : s.world = { w with replies := s.world.replies } := hw
  cases script with
  | done a => exact arrives_self hstage hw
  | send r next =>
    -- The request is sent in one turn and its reply heard in another.
    have hsent : s.Arrives (s.stages.set place (.waiting next)) { w with sent := w.sent ++ [r] } :=
      turn_arrives World.noReply hstage rfl (by rw [hsame]; rfl)
    refine hsent.trans fun s' hstages hw' => ?_
    have hwaiting : s'.stages[place]? = some (.waiting next) := by
      rw [hstages, List.getElem?_set_self hplace]
    have hheard := turn_arrives (w.answer r).1 hwaiting rfl (w := (w.answer r).2) hw'
    rwa [hstages, List.set_set] at hheard
  | readPage next =>
    have hpage : w.pages.current = s.world.pages.current := by rw [hw.pages]
    show s.Arrives (s.stages.set place (.acting (next w.pages.current))) w
    rw [hpage]
    exact turn_arrives World.noReply hstage rfl hw
  | readClock next =>
    have htime : w.time = s.world.time := by rw [hsame]; rfl
    show s.Arrives (s.stages.set place (.acting (next w.time))) w.tick
    rw [htime]
    exact turn_arrives World.noReply hstage rfl (by rw [hsame]; rfl)
  | visit path next => exact turn_arrives World.noReply hstage rfl (by rw [hsame]; rfl)
  | navigate path next => exact turn_arrives World.noReply hstage rfl (by rw [hsame]; rfl)
  | log event next => exact turn_arrives World.noReply hstage rfl (by rw [hsame]; rfl)
  | note sighting next => exact turn_arrives World.noReply hstage rfl (by rw [hsame]; rfl)
  | save name blob next =>
    have hsaved : s.world.save name blob = ((w.save name blob).1,
        { (w.save name blob).2 with replies := s.world.replies }) := by
      rw [hsame]
      exact w.save_withReplies _ name blob
    show s.Arrives (s.stages.set place (.acting (next (w.save name blob).1))) _
    have hresult : (s.world.save name blob).1 = (w.save name blob).1 := by rw [hsaved]
    rw [← hresult]
    exact turn_arrives World.noReply hstage rfl (by simp only [World.after, hsaved, Script.step])

lemma steps_arrives {script script' : Script α} (h : Steps script w script' w') {place : Nat}
    (hstage : s.stages[place]? = some (.acting script)) (hw : s.Matches w) :
    s.Arrives (s.stages.set place (.acting script')) w' := by
  induction h generalizing s with
  | refl script w => exact arrives_self hstage hw
  | head _ ih =>
    have hplace := (List.getElem?_eq_some_iff.mp hstage).1
    refine (step_arrives hstage hw).trans fun s' hstages hw' => ?_
    have hrest := ih (by rw [hstages, List.getElem?_set_self hplace]) hw'
    rwa [hstages, List.set_set] at hrest

lemma round_arrives (scripts : List (Script α)) (before : List (Stage α))
    (hstages : s.stages = before ++ scripts.map .acting) (hw : s.Matches w) :
    s.Arrives (before ++ (Script.round scripts w).1.map .acting) (Script.round scripts w).2 := by
  induction scripts generalizing s w before with
  | nil => exact ⟨[], hstages, hw⟩
  | cons script scripts ih =>
    have hstage : s.stages[before.length]? = some (.acting script) := by
      rw [hstages]
      simp
    refine (steps_arrives (advance_steps script w) hstage hw).trans fun s' hstages' hw' => ?_
    have hrest := ih (before ++ [.acting (script.advance w).1])
      (by rw [hstages', hstages]; simp) hw'
    simpa [Script.round] using hrest

lemma runEach_arrives (scripts : List (Script α)) (before : List (Stage α))
    (hstages : s.stages = before ++ scripts.map .acting) (hw : s.Matches w) :
    s.Arrives (before ++ (runEach scripts w).1.map fun a => .acting (.done a))
      (runEach scripts w).2 := by
  induction scripts generalizing s w before with
  | nil => exact ⟨[], hstages, hw⟩
  | cons script scripts ih =>
    have hstage : s.stages[before.length]? = some (.acting script) := by
      rw [hstages]
      simp
    refine (steps_arrives (run_steps script w) hstage hw).trans fun s' hstages' hw' => ?_
    have hrest := ih (before ++ [.acting (.done (script.run w).1)])
      (by rw [hstages', hstages]; simp) hw'
    simpa [runEach] using hrest

lemma runTogether_arrives (rounds : Nat) (scripts : List (Script α))
    (hstages : s.stages = scripts.map .acting) (hw : s.Matches w) :
    s.Arrives ((runTogether rounds scripts w).1.map fun a => .acting (.done a))
      (runTogether rounds scripts w).2 := by
  induction rounds generalizing s scripts w with
  | zero => exact runEach_arrives scripts [] hstages hw
  | succ n ih =>
    refine (round_arrives scripts [] hstages hw).trans fun s' hstages' hw' => ?_
    exact ih _ hstages' hw'

end InFlight

theorem Client.performTogether_arrives (c : Client) (commands : List Command) (w : World) :
    (InFlight.start (commands.map c.perform) w).Arrives
      ((c.performTogether commands w).1.map fun result => .acting (.done result))
      (c.performTogether commands w).2 :=
  InFlight.runTogether_arrives _ _ rfl rfl

end StorageConsole
