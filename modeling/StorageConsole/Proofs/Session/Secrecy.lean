import Mathlib.Data.List.Basic
import StorageConsole.Http.Transport
import StorageConsole.Proofs.Client.Reaction
import StorageConsole.Proofs.Text.Utf8

/-! What a login tells of a password: its digest, in the body of one request. -/

namespace StorageConsole

open Script

namespace Text.Hex

def IsLowerDigit (c : Char) : Prop := ∃ n < 16, c = lowerDigit n

lemma IsLowerDigit.mem {c : Char} (h : IsLowerDigit c) : c ∈ "0123456789abcdef".toList := by
  have hdigit : ∀ n < 16, lowerDigit n ∈ "0123456789abcdef".toList := by decide
  obtain ⟨n, hn, rfl⟩ := h
  exact hdigit n hn

lemma isLowerDigit_of_mem {bs : List UInt8} {c : Char} (h : c ∈ (encode bs).toList) :
    IsLowerDigit c := by
  rw [encode, String.toList_ofList] at h
  obtain ⟨b, -, hb⟩ := List.mem_flatMap.mp h
  have hb16 := b.toNat_lt
  obtain rfl | rfl : c = lowerDigit (b.toNat / 16) ∨ c = lowerDigit (b.toNat % 16) := by
    simpa using hb
  · exact ⟨b.toNat / 16, by omega, rfl⟩
  · exact ⟨b.toNat % 16, by omega, rfl⟩

end Text.Hex

namespace Session

lemma hashPassword_eq (password username : String) : hashPassword password username =
    Text.Hex.encode (Digest.Md5.digest (Text.Utf8.encode (password ++ ":" ++ username))) := by
  simp only [hashPassword, Text.Utf8.encode, String.toList_append, Text.Utf8.encodeChars_append]

lemma hashPassword_length (password username : String) :
    (hashPassword password username).length = 32 := by
  rw [hashPassword, Text.Hex.encode_length, Digest.Md5.digest_length]

lemma isLowerDigit_of_hashPassword {password username : String} {c : Char}
    (h : c ∈ (hashPassword password username).toList) : Text.Hex.IsLowerDigit c :=
  Text.Hex.isLowerDigit_of_mem h

end Session

lemma Json.Printer.escape_digit {c : Char} (h : Text.Hex.IsLowerDigit c) : escape c = [c] := by
  have hdigit : ∀ n < 16, escape (Text.Hex.lowerDigit n) = [Text.Hex.lowerDigit n] := by decide
  obtain ⟨n, hn, rfl⟩ := h
  exact hdigit n hn

lemma Json.Printer.string_digits {s : String} (h : ∀ c ∈ s.toList, Text.Hex.IsLowerDigit c) :
    string s = '"' :: s.toList ++ ['"'] := by
  have hsame : s.toList.flatMap escape = s.toList.flatMap fun c => [c] :=
    List.flatMap_congr fun c hc => escape_digit (h c hc)
  rw [string, hsame, List.flatMap_singleton']

lemma Text.Utf8.encode_digits_length {s : String} (h : ∀ c ∈ s.toList, Hex.IsLowerDigit c) :
    (encode s).length = s.length := by
  have hdigit : ∀ n < 16, (String.utf8EncodeChar (Hex.lowerDigit n)).length = 1 := by decide
  have hone :
      s.toList.map (fun c => (String.utf8EncodeChar c).length) = s.toList.map fun _ => 1 := by
    refine List.map_congr_left fun c hc => ?_
    obtain ⟨n, hn, rfl⟩ := h c hc
    exact hdigit n hn
  rw [encode, encodeChars, List.length_flatMap, hone]
  simp [List.map_const', String.length_toList]

namespace Session

def loginRequest (username digest : String) : Http.Request where
  method := "POST"
  path := "/login"
  body := .json (Json.Value.object
    [("username", .string username), ("password", .string digest)]).bytes

lemma loginOperation_request (username password : String) :
    (loginOperation username password).request =
      .ok (loginRequest username (hashPassword password username)) := rfl

def loginFront (username : String) : Bytes :=
  Text.Utf8.encodeChars ('\x7b' :: Json.Printer.string "username" ++ ':' ::
    Json.Printer.string username ++ ',' :: Json.Printer.string "password" ++ [':', '"'])

lemma loginRequest_body (username : String) {digest : String}
    (hdigits : ∀ c ∈ digest.toList, Text.Hex.IsLowerDigit c) :
    (loginRequest username digest).body =
      .json (loginFront username ++ Text.Utf8.encode digest ++
        Text.Utf8.encodeChars ['"', '\x7d']) := by
  simp only [loginRequest, loginFront, Text.Utf8.encode, ← Text.Utf8.encodeChars_append,
    Json.Value.bytes, Json.Printer.compact, Json.Printer.compactMembers,
    Json.Printer.string_digits hdigits]
  simp

lemma loginRequest_size (username : String) {digest : String}
    (hdigits : ∀ c ∈ digest.toList, Text.Hex.IsLowerDigit c) :
    (loginRequest username digest).body.size =
      (loginFront username).length + digest.length + 2 := by
  rw [loginRequest_body username hdigits, Http.Body.size, List.length_append, List.length_append,
    Text.Utf8.encode_digits_length hdigits]
  rfl

end Session

namespace World

def withSent (w : World) (sent : List Http.Request) : World := { w with sent := sent }

lemma save_withSent (w : World) (sent : List Http.Request) (name : String) (blob : Download.Blob) :
    (w.withSent sent).save name blob =
      ((w.save name blob).1, (w.save name blob).2.withSent sent) := by
  simp only [save, withSent]
  split
  · rename_i sink _
    cases sink <;> rfl
  · rfl

end World

lemma Script.run_withSent {α : Type} (s : Script α) (w : World) : ∃ later, ∀ sent,
    s.run (w.withSent sent) = ((s.run w).1, (s.run w).2.withSent (sent ++ later)) := by
  induction s generalizing w with
  | done a => exact ⟨[], fun sent => by rw [List.append_nil]; rfl⟩
  | send r next ih =>
    obtain ⟨later, hlater⟩ := ih (w.answer r).1 (w.answer r).2
    refine ⟨r :: later, fun sent => ?_⟩
    have hnext := hlater (sent ++ [r])
    rw [List.append_assoc] at hnext
    exact hnext
  | readPage next ih => exact ih w.pages.current w
  | readClock next ih => exact ih w.time w.tick
  | visit path next ih => exact ih { w with pages := w.pages.visit path }
  | navigate path next ih => exact ih { w with pages := w.pages.navigate path }
  | log event next ih => exact ih (w.log event)
  | note sighting next ih => exact ih { w with sightings := w.sightings ++ [sighting] }
  | save name blob next ih =>
    obtain ⟨later, hlater⟩ := ih (w.save name blob).1 (w.save name blob).2
    refine ⟨later, fun sent => ?_⟩
    rw [run, World.save_withSent]
    exact hlater sent

lemma Http.Transport.send_logs (t : Transport) (boundary : String) (network : Network)
    {r r' : Request} (hmethod : r.method = r'.method) (hpath : r.path = r'.path)
    (hsize : r.body.size = r'.body.size) :
    (t.send boundary network r).2 = (t.send boundary network r').2 := by
  unfold send
  rw [hpath]
  cases t.resolve r'.path with
  | error e => rfl
  | ok url => simp only [hmethod, hsize]

lemma Session.loginRequest_logs (t : Http.Transport) (boundary : String) (network : Http.Network)
    (username : String) {digest digest' : String}
    (hdigits : ∀ c ∈ digest.toList, Text.Hex.IsLowerDigit c)
    (hdigits' : ∀ c ∈ digest'.toList, Text.Hex.IsLowerDigit c)
    (hlength : digest.length = digest'.length) :
    (t.send boundary network (loginRequest username digest)).2 =
      (t.send boundary network (loginRequest username digest')).2 := by
  apply t.send_logs boundary network
  · rfl
  · rfl
  · rw [loginRequest_size username hdigits, loginRequest_size username hdigits', hlength]

namespace Client

variable (c : Client) (extra : List Reaction)

def reacting (r : Http.Request) : Http.Reply → Script Unit
  | .ok _ => done ()
  | .error failure => Reaction.all (c.reactions extra) ⟨r.method, r.path, failure⟩

def after (op : Operation) (r : Http.Request) (start : Nat) (reply : Http.Reply) :
    Script Envelope :=
  (((c.reacting extra r reply).bind fun _ => done reply).bind fun reply =>
    .readClock fun now => done (reply, (now - start) / 1000000)).bind (conclude op r)

lemma callWith_sends {op : Operation} {r : Http.Request} (h : op.request = .ok r) :
    c.callWith extra op = .log (.sending op.endpoint.verb r.path (some r.body.size))
      (.readClock fun start => .send r (c.after extra op r start)) := by
  have hdispatch : c.dispatchWith extra r =
      .send r fun reply => (c.reacting extra r reply).bind fun _ => done reply := by
    refine congrArg (Script.send r) (funext fun reply => ?_)
    cases reply <;> rfl
  rw [c.callWith_eq extra h, hdispatch]
  rfl

lemma after_congr {op op' : Operation} {r r' : Http.Request}
    (hendpoint : op.endpoint = op'.endpoint) (hverb : op.endpoint.verb ≠ .download)
    (hmethod : r.method = r'.method) (hpath : r.path = r'.path) :
    c.after extra op r = c.after extra op' r' := by
  have hconclude : conclude op r = conclude op' r' := by
    funext ⟨reply, elapsed⟩
    cases reply with
    | ok response => simp [conclude, receive, ← hendpoint, hverb, hpath]
    | error failure => simp [conclude, refuse, hendpoint, hpath]
  have hreacting : c.reacting extra r = c.reacting extra r' := by
    funext reply
    cases reply with
    | ok response => rfl
    | error failure => simp only [reacting, hmethod, hpath]
  funext start reply
  rw [after, after, hconclude, hreacting]

def afterLogin (username : String) (start : Nat) (reply : Http.Reply) : Script Envelope := do
  let envelope ← c.after extra (Session.loginOperation username "")
    (Session.loginRequest username "") start reply
  if envelope.success then logs (.loggedIn username)
  return envelope

lemma login_sends (username password : String) :
    c.performWith extra (.login username password) =
      .log (.sending .post "/login" (some ((Session.loginFront username).length + 34)))
        (.readClock fun start =>
          .send (Session.loginRequest username (Session.hashPassword password username))
            fun reply => do return .envelope (← c.afterLogin extra username start reply)) := by
  have hcall := c.callWith_sends extra (Session.loginOperation_request username password)
  rw [Session.loginRequest_size username fun _ => Session.isLowerDigit_of_hashPassword,
    Session.hashPassword_length] at hcall
  have hafter : c.after extra (Session.loginOperation username password)
      (Session.loginRequest username (Session.hashPassword password username)) =
      c.after extra (Session.loginOperation username "") (Session.loginRequest username "") := by
    apply c.after_congr
    · rfl
    · exact fun h => nomatch h
    · rfl
    · rfl
  rw [hafter] at hcall
  simp only [performWith, loginWith, hcall]
  rfl

/-- Logins with any two passwords that get the same answers, and whose clocks show the same, give
the same result and leave the same world, log and pages included, apart from the request of the
login itself; and that differs in one member of its body, which is the digest of the password, a
colon and the name. -/
theorem login_hides_password (username password password' : String) (w : World) :
    let run (password : String) := (c.performWith extra (.login username password)).run w
    let digest := Session.hashPassword password username
    let digest' := Session.hashPassword password' username
    (run password').1 = (run password).1 ∧
    (∃ later, (run password).2.sent = w.sent ++ Session.loginRequest username digest :: later ∧
      (run password').2 = { (run password).2 with
        sent := w.sent ++ Session.loginRequest username digest' :: later }) ∧
    (∀ (t : Http.Transport) (boundary : String) (network : Http.Network),
      (t.send boundary network (Session.loginRequest username digest')).2 =
        (t.send boundary network (Session.loginRequest username digest)).2) ∧
    digest.length = 32 ∧ (∀ c ∈ digest.toList, c ∈ "0123456789abcdef".toList) ∧
    digest =
      Text.Hex.encode (Digest.Md5.digest (Text.Utf8.encode (password ++ ":" ++ username))) := by
  intro run digest digest'
  -- the world in which a reply is found, up to the request
  let asked : World := { (w.log (.sending .post "/login"
    (some ((Session.loginFront username).length + 34)))).tick with replies := w.replies.tail }
  let rest : Script Result := do
    return .envelope (← c.afterLogin extra username w.time w.traffic.reply)
  obtain ⟨later, hlater⟩ := rest.run_withSent asked
  have hrun (password : String) : run password = rest.run (asked.withSent
      (w.sent ++ [Session.loginRequest username (Session.hashPassword password username)])) := by
    simp only [run, login_sends]
    rfl
  refine ⟨?result, ⟨later, ?sent, ?world⟩, fun t boundary network => ?logs,
    Session.hashPassword_length password username,
    fun _ h => (Session.isLowerDigit_of_hashPassword h).mem,
    Session.hashPassword_eq password username⟩
  case result => rw [hrun, hrun, hlater, hlater]
  case sent =>
    rw [hrun, hlater]
    exact List.append_assoc w.sent [_] later
  case world =>
    rw [hrun, hrun, hlater, hlater]
    simp only [World.withSent, List.append_assoc, List.singleton_append, digest']
  case logs =>
    apply Session.loginRequest_logs t boundary network username
    · exact fun _ => Session.isLowerDigit_of_hashPassword
    · exact fun _ => Session.isLowerDigit_of_hashPassword
    · rw [Session.hashPassword_length, Session.hashPassword_length]

theorem two_passwords_look_alike :
    let w : World := { World.showing "/buckets" [.error (.status 401 [] [])] with
      clock := [5000000, 12345678] }
    let run (password : String) := (audited.performWith [] (.login "admin" password)).run w
    Session.hashPassword "admin123" "admin" = "f3b49318621fb57aabf0814885fda39e" ∧
    Session.hashPassword "" "admin" ≠ Session.hashPassword "admin123" "admin" ∧
    (run "").1 = (run "admin123").1 ∧ (run "").2.events = (run "admin123").2.events ∧
    .failed .post "/login" (some 401) 7 "HTTP status 401" ∈ (run "admin123").2.events ∧
    (run "").2.pages = (run "admin123").2.pages := by
  intro w run
  obtain ⟨hresult, ⟨later, -, hworld⟩, -⟩ := login_hides_password audited [] "admin" "admin123" "" w
  refine ⟨by decide +kernel, by decide +kernel, hresult, ?_, by decide +kernel, ?_⟩
  · simp only [run, hworld]
  · simp only [run, hworld]

end Client

end StorageConsole
