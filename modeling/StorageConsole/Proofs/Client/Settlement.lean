import StorageConsole.Proofs.Client.Reaction

/-! What a call comes to depends on the reply to its own request and on the sink alone. -/

namespace StorageConsole

open Script

def Script.upshot {α : Type} (s : Script α) (w : World) : α × Download.Sink :=
  ((s.run w).1, (s.run w).2.sink)

def Command.operation? : Command → Option Operation
  | call op => some op
  | login username password => some (Session.loginOperation username password)
  | _ => none

def Http.Response.effectiveType (response : Http.Response) : String :=
  response.contentType?.getD Client.unknownType

namespace Operation

variable (op : Operation)

def file (response : Http.Response) : String × Download.Blob :=
  (Download.resolveFilename (response.headers.text? .contentDisposition) op.requestedFilename?,
    ⟨response.body, response.effectiveType⟩)

def report (file : String × Download.Blob) : Outcome := ⟨true, file.1, file.2.contentType⟩

def receipt (file : String × Download.Blob) : Except Files.Fault Unit → Envelope
  | .ok () => .accept "Download started" (some (report file).value)
  | .error _ => .reject op.endpoint.message

def received (response : Http.Response) (sink : Download.Sink) : Envelope × Download.Sink :=
  if Download.isErrorPayload response.effectiveType then
    (.reject (Envelope.resolveMessage (some response.body) op.endpoint.message), sink)
  else
    let (sink, result) := sink.save (op.file response).1 (op.file response).2
    (op.receipt (op.file response) result, sink)

def answered (reply : Http.Reply) (sink : Download.Sink) : Envelope × Download.Sink :=
  match reply with
  | .error failure => (.ofFailure failure op.endpoint.message, sink)
  | .ok response =>
    if op.endpoint.verb = .download then op.received response sink
    else (.ofSuccessBody response.body op.endpoint.message, sink)

/-- What a call comes to. Where nothing can be sent, no reply counts. -/
def settlement (reply : Http.Reply) (sink : Download.Sink) : Envelope × Download.Sink :=
  match op.own? with
  | some _ => op.answered reply sink
  | none => (.reject op.endpoint.message, sink)

lemma settlement_rejected {op : Operation} (hown : op.own? ≠ none) (failure : Http.Failure)
    (sink : Download.Sink) :
    op.settlement (.error failure) sink = (.ofFailure failure op.endpoint.message, sink) := by
  obtain ⟨own, hsent⟩ := Option.ne_none_iff_exists'.mp hown
  simp only [settlement, hsent, answered]

end Operation

lemma Script.upshot_bind {α β : Type} (s : Script α) (f : α → Script β) (w : World) :
    (s.bind f).upshot w = (f (s.upshot w).1).upshot (s.run w).2 := by
  unfold upshot
  rw [run_bind]

lemma Script.logs_upshot {α : Type} (event : Event) (a : α) (w : World) :
    ((logs event).bind fun _ => done a).upshot w = (a, w.sink) := rfl

lemma Script.timed_upshot {α : Type} (s : Script α) (w : World) :
    s.timed.upshot w = (((s.upshot w.tick).1, s.elapsed w), (s.upshot w.tick).2) := by
  unfold upshot
  rw [run_timed]
  rfl

lemma Script.saves_upshot (name : String) (blob : Download.Blob) (w : World) :
    (saves name blob).upshot w = (w.sink.save name blob).swap := by
  change ((w.save name blob).1, (w.save name blob).2.sink) = _
  unfold World.save
  rcases w.sink.save name blob with ⟨sink, fault | u⟩
  · rfl
  · obtain ⟨events, hlogged⟩ := World.logSaved_eq { w with sink := sink } name blob
    exact congrArg (fun left : World => (Except.ok u, left.sink)) hlogged

namespace Client

variable (c : Client) (extra : List Reaction) (op : Operation) (w : World)

lemma dispatchWith_upshot (r : Http.Request) :
    (c.dispatchWith extra r).upshot w = (w.traffic.reply, w.sink) := by
  simp only [upshot, dispatchWith, bind_eq, run_bind, run_sends]
  cases w.traffic.reply with
  | ok response => rfl
  | error failure =>
    rw [run_bind]
    exact congrArg (Prod.mk _) (Reaction.all_keeps_sink _ _ _)

lemma dispatchWith_timed_upshot (r : Http.Request) :
    (c.dispatchWith extra r).timed.upshot w =
      ((w.traffic.reply, (c.dispatchWith extra r).elapsed w), w.sink) := by
  rw [timed_upshot, dispatchWith_upshot]
  rfl

def acknowledge (file : String × Download.Blob) : Except Files.Fault Unit → Script Envelope
  | .ok () => done (op.receipt file (.ok ()))
  | .error fault => (logs (.unsaved file.1 fault.text)).bind fun _ =>
    done (op.receipt file (.error fault))

lemma acknowledge_upshot (file : String × Download.Blob) (result : Except Files.Fault Unit) :
    (acknowledge op file result).upshot w = (op.receipt file result, w.sink) := by
  cases result <;> rfl

lemma handOff_upshot (response : Http.Response) :
    (handOff op response).upshot w = op.received response w.sink := by
  by_cases herror : Download.isErrorPayload response.effectiveType = true
  · rw [Operation.received, if_pos herror]
    exact congrArg (upshot · w) (if_pos herror)
  · let file := op.file response
    have hscript : handOff op response =
        (saves file.1 file.2).bind (acknowledge op file) := if_neg herror
    have hsaves := saves_upshot file.1 file.2 w
    have hsink : ((saves file.1 file.2).run w).2.sink = (w.sink.save file.1 file.2).1 :=
      congrArg Prod.snd hsaves
    rw [Operation.received, if_neg herror, hscript, upshot_bind, acknowledge_upshot, hsaves, hsink]
    rfl

lemma receiveFile_upshot (elapsed : Nat) (response : Http.Response) :
    (receiveFile op elapsed response).upshot w = op.received response w.sink := by
  rw [← handOff_upshot]
  simp only [receiveFile, bind_eq, upshot_bind]
  split
  · exact logs_upshot _ _ _
  · exact logs_upshot _ _ _

lemma conclude_upshot (r : Http.Request) (reply : Http.Reply) (elapsed : Nat) :
    (conclude op r (reply, elapsed)).upshot w = op.answered reply w.sink := by
  cases reply with
  | error failure => rfl
  | ok response =>
    simp only [conclude, Operation.answered]
    split
    · exact receiveFile_upshot op w elapsed response
    · rfl

lemma callWith_upshot :
    (c.callWith extra op).upshot w = op.settlement w.traffic.reply w.sink := by
  unfold Operation.settlement
  cases hown : op.own? with
  | none =>
    unfold callWith
    rw [op.request_eq, hown]
    rfl
  | some own =>
    have hdispatch := c.dispatchWith_timed_upshot extra
      (w.log (.sending op.endpoint.verb own.path (some own.body.size))) own
    rw [c.callWith_eq extra (by rw [op.request_eq, hown]), upshot_bind, upshot_bind]
    -- the rest runs in a world that the interceptors have changed, of which it reads the sink alone
    exact (conclude_upshot op _ own _ _).trans
      (congr (congrArg op.answered (congrArg (·.1.1) hdispatch)) (congrArg Prod.snd hdispatch))

lemma loginWith_upshot (username password : String) :
    (c.loginWith extra username password).upshot w =
      (Session.loginOperation username password).settlement w.traffic.reply w.sink := by
  rw [← c.callWith_upshot extra]
  simp only [loginWith, bind_eq, upshot_bind]
  split
  · exact logs_upshot _ _ _
  · rfl

lemma performWith_upshot {command : Command} (h : command.operation? = some op) :
    (c.performWith extra command).upshot w =
      (op.settlement w.traffic.reply w.sink).map .envelope id := by
  cases command with
  | call op' =>
    cases h
    rw [← c.callWith_upshot extra]
    exact upshot_bind _ _ w
  | login username password =>
    cases h
    rw [← c.loginWith_upshot extra]
    exact upshot_bind _ _ w
  | visit | logout | authStatus | guard | refused => cases h

lemma call_upshot : (c.call op).upshot w = op.settlement w.traffic.reply w.sink := by
  rw [← callWith_nil]
  exact c.callWith_upshot [] op w

lemma login_upshot (username password : String) :
    (Session.login c username password).upshot w =
      (Session.loginOperation username password).settlement w.traffic.reply w.sink := by
  rw [← loginWith_nil]
  exact c.loginWith_upshot [] w username password

lemma perform_upshot {command : Command} (h : command.operation? = some op) :
    (c.perform command).upshot w = (op.settlement w.traffic.reply w.sink).map .envelope id := by
  rw [← performWith_nil]
  exact c.performWith_upshot [] op w h

/-- Two calls of one operation that get the same reply come to the same, whatever the pages, the
clients, the interceptors added to these and the answers to what interceptors send; and a rejection
comes back as the failure that it tells, even if it sends the user to log in. -/
theorem result_ignores_interceptors (c c' : Client) (extra extra' : List Reaction)
    (command : Command) (op : Operation) (w w' : World) (hop : command.operation? = some op)
    (hreply : w.replies.headD World.noReply = w'.replies.headD World.noReply)
    (hsink : w.sink = w'.sink) :
    ((c.performWith extra command).run w).1 = ((c'.performWith extra' command).run w').1 ∧
    ((c.performWith extra command).run w).2.sink =
      ((c'.performWith extra' command).run w').2.sink ∧
    ∀ failure, w.replies.headD World.noReply = .error failure → op.own? ≠ none →
      ((c.performWith extra command).run w).1 =
        .envelope (.reject (Envelope.failureMessage failure op.endpoint.message)) ∧
      ((c.performWith extra command).run w).2.sink = w.sink := by
  have hupshot : (c.performWith extra command).upshot w =
      (c'.performWith extra' command).upshot w' := by
    have hreply' : w.traffic.reply = w'.traffic.reply := hreply
    rw [c.performWith_upshot extra op w hop, c'.performWith_upshot extra' op w' hop, hreply', hsink]
  obtain ⟨hresult, hleft⟩ := Prod.ext_iff.mp hupshot
  refine ⟨hresult, hleft, ?_⟩
  intro failure hfailure hown
  have hreply' : w.traffic.reply = .error failure := hfailure
  have hrejection := c.performWith_upshot extra op w hop
  rw [hreply', Operation.settlement_rejected hown] at hrejection
  exact Prod.ext_iff.mp hrejection

def hasty : Client := { plain with logoutTimeout := 500, interceptors := builtIn 500 }

def wanderer : Reaction where
  react _ := do
    visits "/away"
    let _ ← sends Session.statusRequest
  keeps_sink _ _ := rfl

def sessionOver : Http.Reply :=
  .error (.status 401 [] (Text.Utf8.encode "\x7b\"msg\":\"session over\"\x7d"))

theorem redirected_call_fails_alike :
    let w : World := .showing "/login" [sessionOver, .error .timeout]
    let w' : World := .showing "/login" [sessionOver]
    let command : Command := .call Resources.stats
    ((audited.performWith [wanderer] command).run w).2.pages.navigations = ["/login"] ∧
    ((hasty.perform command).run w').2.pages.navigations = [] ∧
    ((audited.performWith [wanderer] command).run w).1 =
      .envelope ⟨false, "session over", none⟩ ∧
    ((hasty.perform command).run w').1 = .envelope ⟨false, "session over", none⟩ := by
  intro w w' command
  obtain ⟨hsame, -, hrejected⟩ := result_ignores_interceptors audited hasty [wanderer] [] command
    Resources.stats w w' rfl rfl rfl
  have hresult : ((audited.performWith [wanderer] command).run w).1 =
      .envelope ⟨false, "session over", none⟩ := by
    rw [(hrejected _ rfl (by decide)).1]
    decide +kernel
  refine ⟨by decide +kernel, by decide +kernel, hresult, ?_⟩
  rw [← performWith_nil, ← hsame]
  exact hresult

end Client
end StorageConsole
