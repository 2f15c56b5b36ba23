import StorageConsole.Client.Command
import StorageConsole.Proofs.Script.Protocol
import StorageConsole.Proofs.Script.Running

namespace StorageConsole

open Script

namespace Traffic

def reply (t : Traffic) : Http.Reply := t.replies.headD World.noReply

def ask (t : Traffic) (r : Http.Request) : Traffic := ⟨t.replies.tail, t.pages, t.sent ++ [r]⟩

def logout (t : Traffic) (timeout : Nat) : Traffic :=
  { t.ask (Session.logoutRequest timeout) with pages := t.pages.navigate loginPage }

def reject (t : Traffic) (timeout : Nat) (failure : Http.Failure) : Traffic :=
  if failure.isUnauthorized ∧ isAuthFlow t.pages.current = false then t.logout timeout else t

end Traffic

lemma run_sends (r : Http.Request) (w : World) :
    (sends r).run w = (w.traffic.reply, (w.answer r).2) := rfl

lemma Session.logout_traffic (timeout : Nat) (w : World) :
    ((logout timeout).run w).2.traffic = w.traffic.logout timeout := by
  simp only [logout, bind_eq, run_bind, run_sends]
  cases w.traffic.reply with
  | ok response => rfl
  | error failure => rfl

namespace Interceptor

variable (r : Rejection) (w : World)

lemma react_isQuiet {i : Interceptor} (h : ∀ timeout, i ≠ session timeout) :
    (i.react r).IsQuiet := by
  cases i with
  | tracing => exact isQuiet_logs _
  | observer name => exact fun w => rfl
  | session timeout => exact absurd rfl (h timeout)

lemma session_traffic (timeout : Nat) :
    (((session timeout).react r).run w).2.traffic = w.traffic.reject timeout r.failure := by
  unfold Traffic.reject
  cases hexpiry : r.failure.isUnauthorized with
  | false => simp [react, hexpiry, pure_eq, run]
  | true =>
    simp only [react, hexpiry, if_true, true_and, expire, bind_eq, run_bind]
    show ((if isAuthFlow w.pages.current = true then _ else _ : Script Unit).run w).2.traffic =
      if isAuthFlow w.pages.current = false then _ else _
    cases isAuthFlow w.pages.current with
    | true => rfl
    | false => exact Session.logout_traffic timeout _

end Interceptor

namespace Client

variable {c : Client} (op : Operation) (r : Http.Request) (w : World) {names : List String}

lemma receiveFile_isQuiet (elapsed : Nat) (response : Http.Response) :
    (receiveFile op elapsed response).IsQuiet := by
  have hstored : (handOff op response).IsQuiet := by
    simp only [handOff, bind_eq, pure_eq]
    split
    · exact isQuiet_done _
    · refine (isQuiet_saves _ _).bind fun result => ?_
      cases result with
      | ok u => exact isQuiet_done _
      | error fault => exact (isQuiet_logs _).bind fun _ => isQuiet_done _
  refine hstored.bind fun envelope => ?_
  dsimp only
  split
  · exact (isQuiet_logs _).bind fun _ => isQuiet_done _
  · exact (isQuiet_logs _).bind fun _ => isQuiet_done _

def conclude : Http.Reply × Nat → Script Envelope
  | (.error failure, elapsed) => refuse op r elapsed failure
  | (.ok response, elapsed) =>
    if op.endpoint.verb = .download then receiveFile op elapsed response
    else receive op r elapsed response

lemma conclude_isQuiet (answer : Http.Reply × Nat) : (conclude op r answer).IsQuiet := by
  obtain ⟨reply, elapsed⟩ := answer
  cases reply with
  | error failure => exact (isQuiet_logs _).bind fun _ => isQuiet_done _
  | ok response =>
    simp only [conclude]
    split
    · exact receiveFile_isQuiet op elapsed response
    · exact (isQuiet_logs _).bind fun _ => isQuiet_done _

section

variable (hc : c.interceptors = builtIn c.logoutTimeout ++ names.map .observer)

include hc

end

end Client
end StorageConsole
