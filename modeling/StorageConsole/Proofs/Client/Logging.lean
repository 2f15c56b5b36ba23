import StorageConsole.Proofs.Client.Settlement
import StorageConsole.Proofs.Envelope.Acceptance

/-! The outcome of a call in the log, and where it contradicts the envelope. -/

namespace StorageConsole

open Script

namespace Event

def ofCall : Event → Bool
  | sending .. | succeeded .. | failed .. => true
  | _ => false

inductive Reports (verb : Verb) (path : String) : Bool → Event → Prop
  | success (status : Option Nat) (elapsed : Nat) (size : Option Nat) :
      Reports verb path true (succeeded verb path status elapsed size)
  | failure (status : Option Nat) (elapsed : Nat) (error : String) :
      Reports verb path false (failed verb path status elapsed error)

namespace Reports

variable {verb : Verb} {path : String} {told : Bool} {event : Event}

lemma level (h : Reports verb path told event) : event.level = if told then .info else .warn := by
  cases h <;> rfl

lemma message (h : Reports verb path told event) : event.message =
    if told then "Console request succeeded" else "Console request failed" := by
  cases h <;> rfl

end Reports
end Event

namespace Script

variable {α β : Type}

def IsDiscreet (s : Script α) : Prop :=
  ∀ w, ∃ told, (s.run w).2.events = w.events ++ told ∧ ∀ e ∈ told, e.ofCall = false

lemma isDiscreet_keeps {s : Script α} (h : s.Keeps World.events) : s.IsDiscreet :=
  fun w => ⟨[], by rw [h, List.append_nil], by simp⟩

lemma isDiscreet_logs {event : Event} (h : event.ofCall = false) : (logs event).IsDiscreet :=
  fun _ => ⟨[event], rfl, by simpa using h⟩

lemma IsDiscreet.bind {s : Script α} {f : α → Script β} (hs : s.IsDiscreet)
    (hf : ∀ a, (f a).IsDiscreet) : (s.bind f).IsDiscreet := by
  intro w
  obtain ⟨told, hevents, htold⟩ := hs w
  obtain ⟨told', hevents', htold'⟩ := hf (s.run w).1 (s.run w).2
  refine ⟨told ++ told', ?_, ?_⟩
  · rw [run_bind, hevents', hevents, List.append_assoc]
  · simpa [or_imp, forall_and] using And.intro htold htold'

lemma IsDiscreet.timed {s : Script α} (hs : s.IsDiscreet) : s.timed.IsDiscreet := by
  have hclock : clockShown.IsDiscreet := isDiscreet_keeps fun w => rfl
  exact hclock.bind fun _ => hs.bind fun _ => hclock.bind fun _ => isDiscreet_keeps (keeps_done _)

lemma isDiscreet_sequence {ss : List (Script Unit)} (h : ∀ s ∈ ss, s.IsDiscreet) :
    (sequence ss).IsDiscreet := by
  induction ss with
  | nil => exact isDiscreet_keeps (keeps_done ())
  | cons s ss ih =>
    exact (h s List.mem_cons_self).bind fun _ => ih fun t ht => h t (List.mem_cons_of_mem s ht)

lemma isDiscreet_saves (name : String) (blob : Download.Blob) : (saves name blob).IsDiscreet := by
  intro w
  change ∃ told, (w.save name blob).2.events = _ ∧ _
  unfold World.save
  rcases w.sink.save name blob with ⟨sink, fault | u⟩
  · exact ⟨[], (List.append_nil _).symm, by simp⟩
  · dsimp only
    unfold World.logSaved
    split
    · exact ⟨_, rfl, by simp [Event.ofCall]⟩
    · exact ⟨[], (List.append_nil _).symm, by simp⟩

end Script

lemma Session.logout_isDiscreet (timeout : Nat) : (logout timeout).IsDiscreet := by
  have hredirect : (navigates loginPage).IsDiscreet := isDiscreet_keeps fun w => rfl
  refine IsDiscreet.bind (isDiscreet_keeps fun w => rfl) fun reply => ?_
  cases reply with
  | ok response => exact hredirect
  | error failure => exact (isDiscreet_logs rfl).bind fun _ => hredirect

lemma Interceptor.react_isDiscreet (i : Interceptor) (r : Rejection) :
    (i.react r).IsDiscreet := by
  cases i with
  | tracing => exact isDiscreet_logs rfl
  | observer name => exact isDiscreet_keeps fun w => rfl
  | session timeout =>
    simp only [react]
    split
    · refine IsDiscreet.bind (isDiscreet_keeps fun w => rfl) fun page => ?_
      cases isAuthFlow page with
      | true => exact isDiscreet_logs rfl
      | false => exact (isDiscreet_logs rfl).bind fun _ => Session.logout_isDiscreet timeout
    · exact isDiscreet_keeps (keeps_done ())

def Reaction.IsDiscreet (reaction : Reaction) : Prop := ∀ r, (reaction.react r).IsDiscreet

namespace Script

def ReportsIn {α : Type} (s : Script α) (w : World) (verb : Verb) (path : String) (told : Bool) :
    Prop :=
  ∃ between outcome, (s.run w).2.events = w.events ++ (between ++ [outcome]) ∧
    (∀ e ∈ between, e.ofCall = false) ∧ Event.Reports verb path told outcome

variable {α β : Type} {verb : Verb} {path : String} {told : Bool} {w : World}

lemma reportsIn_logs {event : Event} (h : Event.Reports verb path told event) (a : α) :
    ((logs event).bind fun _ => done a).ReportsIn w verb path told :=
  ⟨[], event, rfl, by simp, h⟩

lemma IsDiscreet.reportsIn {s : Script α} {f : α → Script β} (hs : s.IsDiscreet)
    (hf : (f (s.run w).1).ReportsIn (s.run w).2 verb path told) :
    (s.bind f).ReportsIn w verb path told := by
  obtain ⟨before, hevents, hbefore⟩ := hs w
  obtain ⟨between, outcome, hevents', hbetween, houtcome⟩ := hf
  refine ⟨before ++ between, outcome, ?_, ?_, houtcome⟩
  · rw [run_bind, hevents', hevents]
    simp
  · simpa [or_imp, forall_and] using And.intro hbefore hbetween

end Script

namespace Client

variable (c : Client) {extra : List Reaction} (op : Operation) (w : World)

lemma dispatchWith_isDiscreet (hextra : ∀ reaction ∈ extra, reaction.IsDiscreet)
    (r : Http.Request) : (c.dispatchWith extra r).IsDiscreet := by
  refine IsDiscreet.bind (isDiscreet_keeps fun w => rfl) fun reply => ?_
  cases reply with
  | ok response => exact isDiscreet_keeps (keeps_done _)
  | error failure =>
    refine IsDiscreet.bind (isDiscreet_sequence fun s hs => ?_) fun _ =>
      isDiscreet_keeps (keeps_done _)
    simp only [reactions, List.mem_map, List.mem_reverse, List.mem_append] at hs
    obtain ⟨reaction, ⟨i, -, rfl⟩ | hreaction, rfl⟩ := hs
    · exact i.react_isDiscreet _
    · exact hextra reaction hreaction _

lemma handOff_isDiscreet (response : Http.Response) : (handOff op response).IsDiscreet := by
  simp only [handOff, bind_eq, pure_eq]
  split
  · exact isDiscreet_keeps (keeps_done _)
  · refine (isDiscreet_saves _ _).bind fun result => ?_
    cases result with
    | ok u => exact isDiscreet_keeps (keeps_done _)
    | error fault =>
      exact (isDiscreet_logs rfl).bind fun _ => isDiscreet_keeps (keeps_done _)

lemma receiveFile_reports (elapsed : Nat) (response : Http.Response) :
    (receiveFile op elapsed response).ReportsIn w op.endpoint.verb op.endpoint.path
      ((receiveFile op elapsed response).upshot w).1.success := by
  have hsuccess : ((receiveFile op elapsed response).upshot w).1.success =
      ((handOff op response).run w).1.success := by
    rw [receiveFile_upshot, ← handOff_upshot]
    rfl
  refine (handOff_isDiscreet op response).reportsIn ?_
  rw [hsuccess]
  cases hverdict : ((handOff op response).run w).1.success with
  | true =>
    rw [if_pos rfl]
    exact reportsIn_logs (.success _ _ _) _
  | false =>
    rw [if_neg Bool.false_ne_true]
    exact reportsIn_logs (.failure _ _ _) _

end Client

namespace Operation

def IsBound (op : Operation) : Prop :=
  match op.content with
  | .query _ => op.endpoint.verb ∈ [.get, .delete]
  | .json _ => op.endpoint.verb ∈ [.post, .put, .download]
  | .form _ => op.endpoint.verb = .upload

def told (op : Operation) (reply : Http.Reply) (e : Envelope) : Bool :=
  if op.endpoint.verb = .download then e.success else reply.isOk

/-- An answer that is accepted for its status, while its body reports a failure. -/
def Misread (op : Operation) (reply : Http.Reply) : Prop :=
  op.endpoint.verb ≠ .download ∧ ∃ response, reply = .ok response ∧
    Envelope.IsFailure response.body

variable {op : Operation}

lemma IsBound.download_path {own : Http.Request} (h : op.IsBound)
    (hverb : op.endpoint.verb = .download) (hown : op.own? = some own) :
    own.path = op.endpoint.path := by
  obtain ⟨endpoint, content, options⟩ := op
  cases content with
  | query params => simp_all [IsBound]
  | form parts => simp_all [IsBound]
  | json payload =>
    obtain ⟨body, -, rfl⟩ := Option.map_eq_some_iff.mp hown
    exact String.append_empty

lemma told_of_misread {reply : Http.Reply} (sink : Download.Sink) (h : op.Misread reply) :
    op.told reply (op.answered reply sink).1 = true ∧
      (op.answered reply sink).1.success = false := by
  obtain ⟨hverb, response, rfl, hfailure⟩ := h
  refine ⟨if_neg hverb, ?_⟩
  rw [← Bool.not_eq_true]
  simpa only [answered, if_neg hverb, Envelope.ofSuccessBody_success, Classical.not_not]

lemma told_eq_success {reply : Http.Reply} {sink : Download.Sink} (h : ¬op.Misread reply) :
    op.told reply (op.answered reply sink).1 = (op.answered reply sink).1.success := by
  by_cases hverb : op.endpoint.verb = .download
  · exact if_pos hverb
  · rw [told, if_neg hverb]
    cases reply with
    | error failure => rfl
    | ok response =>
      have hread : ¬Envelope.IsFailure response.body := fun hfailure =>
        h ⟨hverb, response, rfl, hfailure⟩
      simp only [answered, if_neg hverb, (Envelope.ofSuccessBody_success _ _).mpr hread]
      rfl

end Operation

namespace Client

variable (c : Client) (extra : List Reaction) {op : Operation} {own : Http.Request} (w : World)

lemma conclude_reports (hop : op.IsBound) (hown : op.own? = some own) (reply : Http.Reply)
    (elapsed : Nat) : (conclude op own (reply, elapsed)).ReportsIn w op.endpoint.verb own.path
      (op.told reply (op.answered reply w.sink).1) := by
  cases reply with
  | error failure =>
    have htold : op.told (.error failure) (op.answered (.error failure) w.sink).1 = false := by
      unfold Operation.told
      split <;> rfl
    rw [htold]
    exact reportsIn_logs (.failure _ _ _) _
  | ok response =>
    by_cases hverb : op.endpoint.verb = .download
    · have hreports := receiveFile_reports op w elapsed response
      rw [receiveFile_upshot, ← hop.download_path hverb hown] at hreports
      simpa only [conclude, Operation.told, Operation.answered, if_pos hverb] using hreports
    · simp only [conclude, Operation.told, if_neg hverb]
      exact reportsIn_logs (.success _ _ _) _

variable {extra} in
lemma callWith_reports (hextra : ∀ reaction ∈ extra, reaction.IsDiscreet) (hop : op.IsBound)
    (hown : op.own? = some own) :
    ∃ between outcome, ((c.callWith extra op).run w).2.events =
        w.events ++ .sending op.endpoint.verb own.path (some own.body.size) ::
          (between ++ [outcome]) ∧
      (∀ e ∈ between, e.ofCall = false) ∧
      Event.Reports op.endpoint.verb own.path
        (op.told w.traffic.reply (op.answered w.traffic.reply w.sink).1) outcome := by
  let sending : Event := .sending op.endpoint.verb own.path (some own.body.size)
  let dispatch := c.dispatchWith extra own
  have hdispatch := c.dispatchWith_timed_upshot extra (w.log sending) own
  have hanswer : (dispatch.timed.run (w.log sending)).1 =
      (w.traffic.reply, dispatch.elapsed (w.log sending)) := congrArg Prod.fst hdispatch
  have hsink : (dispatch.timed.run (w.log sending)).2.sink = w.sink := congrArg Prod.snd hdispatch
  have hconclude := conclude_reports (dispatch.timed.run (w.log sending)).2 hop hown
    w.traffic.reply (dispatch.elapsed (w.log sending))
  rw [hsink, ← hanswer] at hconclude
  obtain ⟨between, outcome, hevents, hbetween, houtcome⟩ :=
    (c.dispatchWith_isDiscreet hextra own).timed.reportsIn hconclude
  refine ⟨between, outcome, ?_, hbetween, houtcome⟩
  rw [c.callWith_eq extra (by rw [op.request_eq, hown])]
  exact hevents.trans (List.append_assoc w.events [sending] _)

lemma performWith_logs {command : Command} (h : command.operation? = some op) :
    ∃ later, ((c.performWith extra command).run w).2.events =
        ((c.callWith extra op).run w).2.events ++ later ∧ ∀ e ∈ later, e.ofCall = false := by
  cases command with
  | call op' =>
    cases h
    refine ⟨[], ?_, by simp⟩
    simp only [performWith, bind_eq, run_bind]
    exact (List.append_nil _).symm
  | login username password =>
    cases h
    have hafter (e : Envelope) : IsDiscreet (if e.success then do
        logs (.loggedIn username); pure e else pure e : Script Envelope) := by
      cases e.success with
      | true => exact (isDiscreet_logs rfl).bind fun _ => isDiscreet_keeps (keeps_done e)
      | false => exact isDiscreet_keeps (keeps_done e)
    let op := Session.loginOperation username password
    obtain ⟨later, hlater, hlogs⟩ := hafter ((c.callWith extra op).run w).1
      ((c.callWith extra op).run w).2
    refine ⟨later, ?_, hlogs⟩
    simp only [performWith, loginWith, bind_eq, run_bind]
    exact hlater
  | visit | logout | authStatus | guard | refused => cases h

variable {extra} in
/-- For every call whose request can be made: it is logged first that the request is sent, and
after what the interceptors and the sink log comes one outcome, with the same verb and path. It
tells what the envelope tells, unless an answer is misread: then it tells a success, and the
envelope a failure. -/
theorem outcome_told_iff_not_misread (hextra : ∀ reaction ∈ extra, reaction.IsDiscreet)
    (command : Command) (hcommand : command.operation? = some op) (hop : op.IsBound)
    (hown : op.own? = some own) :
    let run := (c.performWith extra command).run w
    ∃ e told between outcome later,
      run.1 = .envelope e ∧
      run.2.events = w.events ++ .sending op.endpoint.verb own.path (some own.body.size) ::
        (between ++ outcome :: later) ∧
      (∀ event ∈ between ++ later, event.ofCall = false) ∧
      Event.Reports op.endpoint.verb own.path told outcome ∧
      outcome.level = (if told then .info else .warn) ∧
      outcome.message =
        (if told then "Console request succeeded" else "Console request failed") ∧
      (told = e.success ↔ ¬op.Misread (w.replies.headD World.noReply)) ∧
      (op.Misread (w.replies.headD World.noReply) → told = true ∧ e.success = false) := by
  intro run
  obtain ⟨between, outcome, hcall, hbetween, houtcome⟩ := c.callWith_reports w hextra hop hown
  obtain ⟨later, hlater, hlogs⟩ := c.performWith_logs extra w hcommand
  have hsettlement : op.settlement w.traffic.reply w.sink = op.answered w.traffic.reply w.sink := by
    rw [Operation.settlement, hown]
  refine ⟨(op.answered w.traffic.reply w.sink).1, _, between, outcome, later, ?envelope, ?events,
    ?others, houtcome, houtcome.level, houtcome.message, ?truly, Operation.told_of_misread w.sink⟩
  case envelope =>
    have hupshot := c.performWith_upshot extra op w hcommand
    rw [hsettlement] at hupshot
    exact congrArg Prod.fst hupshot
  case events =>
    rw [hlater, hcall]
    simp
  case others =>
    simpa [or_imp, forall_and] using And.intro hbetween hlogs
  case truly =>
    refine ⟨fun htold hmisread => ?_, Operation.told_eq_success⟩
    obtain ⟨hsuccess, hfailure⟩ := Operation.told_of_misread w.sink hmisread
    have hboth := hsuccess.symm.trans (htold.trans hfailure)
    cases hboth

lemma wanderer_isDiscreet : wanderer.IsDiscreet := fun _ => isDiscreet_keeps fun _ => rfl

theorem expired_call_told_as_failure :
    (∀ reaction ∈ [wanderer], reaction.IsDiscreet) ∧ Resources.stats.IsBound ∧
    ∃ between outcome later,
      ((audited.performWith [wanderer] (.call Resources.stats)).run
        (.showing "/objects" [sessionOver])).2.events =
        .sending .get "/stats" (some 0) :: (between ++ outcome :: later) ∧
      (∀ event ∈ between ++ later, event.ofCall = false) ∧
      Event.Reports .get "/stats" false outcome := by
  have hextra : ∀ reaction ∈ [wanderer], reaction.IsDiscreet := by
    simpa using wanderer_isDiscreet
  have hbound : Resources.stats.IsBound := .head _
  obtain ⟨e, told, between, outcome, later, hresult, hevents, hothers, houtcome, -, -, htruly, -⟩ :=
    outcome_told_iff_not_misread audited (.showing "/objects" [sessionOver]) hextra
      (.call Resources.stats) rfl hbound rfl
  have hsuccess : e = ⟨false, "session over", none⟩ := by
    have hcomputed : ((audited.performWith [wanderer] (.call Resources.stats)).run
        (.showing "/objects" [sessionOver])).1 = .envelope ⟨false, "session over", none⟩ := by
      decide +kernel
    rw [hresult] at hcomputed
    exact Result.envelope.inj hcomputed
  have htold : told = e.success := htruly.mpr fun ⟨_, _, hreply, _⟩ => nomatch hreply
  rw [htold, hsuccess] at houtcome
  exact ⟨hextra, hbound, between, outcome, later, hevents, hothers, houtcome⟩

theorem failure_told_as_success :
    let body := Text.Utf8.encode "\x7b\"code\":1,\"msg\":\"boom\"\x7d"
    let run := (plain.perform (.call Resources.stats)).run
      (.showing "/objects" [.ok ⟨200, [], body⟩])
    run.1 = .envelope ⟨false, "boom", none⟩ ∧
    run.2.events =
      [.sending .get "/stats" (some 0), .succeeded .get "/stats" (some 200) 0 (some 23)] := by
  decide +kernel

end Client
end StorageConsole
