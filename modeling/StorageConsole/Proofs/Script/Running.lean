import Mathlib.Tactic.Lemma
import StorageConsole.Script.Run

namespace StorageConsole

structure Traffic where
  replies : List Http.Reply
  pages : Pages
  sent : List Http.Request

namespace World

def traffic (w : World) : Traffic := ⟨w.replies, w.pages, w.sent⟩

lemma logSaved_eq (w : World) (name : String) (blob : Download.Blob) :
    ∃ events, w.logSaved name blob = { w with events := events } := by
  unfold logSaved
  split
  · exact ⟨_, rfl⟩
  · exact ⟨_, rfl⟩

lemma save_traffic (w : World) (name : String) (blob : Download.Blob) :
    (w.save name blob).2.traffic = w.traffic := by
  unfold save
  split
  · rename_i sink hsaved
    obtain ⟨events, hlogged⟩ := logSaved_eq { w with sink := sink } name blob
    rw [hlogged]
    rfl
  · rfl

end World

namespace Script

variable {α β : Type}

lemma run_bind (s : Script α) (f : α → Script β) (w : World) :
    (s.bind f).run w = (f (s.run w).1).run (s.run w).2 := by
  induction s generalizing w with
  | done a => rfl
  | send r next ih => exact ih _ _
  | readPage next ih => exact ih _ _
  | readClock next ih => exact ih _ _
  | visit path next ih => exact ih _
  | navigate path next ih => exact ih _
  | log event next ih => exact ih _
  | note sighting next ih => exact ih _
  | save name blob next ih => exact ih _ _

def elapsed (s : Script α) (w : World) : Nat := ((s.run w.tick).2.time - w.time) / 1000000

lemma run_timed (s : Script α) (w : World) :
    s.timed.run w = (((s.run w.tick).1, s.elapsed w), (s.run w.tick).2.tick) :=
  run_bind s _ w.tick

def Keeps {V : Type} (view : World → V) (s : Script α) : Prop := ∀ w, view (s.run w).2 = view w

section

variable {V : Type} {view : World → V}

lemma keeps_done (a : α) : (done a).Keeps view := fun _ => rfl

lemma Keeps.bind {s : Script α} {f : α → Script β} (hs : s.Keeps view)
    (hf : ∀ a, (f a).Keeps view) : (s.bind f).Keeps view := by
  intro w
  rw [run_bind, hf, hs]

lemma keeps_sequence {ss : List (Script Unit)} (h : ∀ s ∈ ss, s.Keeps view) :
    (sequence ss).Keeps view := by
  induction ss with
  | nil => exact keeps_done ()
  | cons s ss ih =>
    exact (h s List.mem_cons_self).bind fun _ => ih fun t ht => h t (List.mem_cons_of_mem s ht)

end

def IsQuiet (s : Script α) : Prop := ∀ w, (s.run w).2.traffic = w.traffic

lemma isQuiet_done (a : α) : (done a).IsQuiet := keeps_done a

lemma isQuiet_logs (event : Event) : (logs event).IsQuiet := fun _ => rfl

lemma isQuiet_saves (name : String) (blob : Download.Blob) : (saves name blob).IsQuiet :=
  fun w => w.save_traffic name blob

lemma IsQuiet.bind {s : Script α} {f : α → Script β} (hs : s.IsQuiet) (hf : ∀ a, (f a).IsQuiet) :
    (s.bind f).IsQuiet := Keeps.bind hs hf

lemma isQuiet_sequence {ss : List (Script Unit)} (h : ∀ s ∈ ss, s.IsQuiet) :
    (sequence ss).IsQuiet := keeps_sequence h

end Script
end StorageConsole
