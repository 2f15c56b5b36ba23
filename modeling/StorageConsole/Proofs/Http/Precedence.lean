import StorageConsole.Http.Transport
import StorageConsole.Proofs.Client.Settlement
import StorageConsole.Proofs.Envelope.Message
import StorageConsole.Proofs.Http.Beneath
import StorageConsole.Proofs.Http.Headers

namespace StorageConsole

open Script

namespace Http

/-! ### What goes to the network -/

namespace Transport

variable (t : Transport) (boundary : String) (r : Request)

def wire? : Option Outgoing :=
  (t.resolve r.path).toOption.bind fun url => (t.outgoing boundary r url).toOption

def userinfo? : Option Userinfo := (t.resolve r.path).toOption.bind Userinfo.ofUrl?

lemma outgoing_cases (url : Url) :
    (∃ failure, t.outgoing boundary r url = .error failure ∧
      failure.code? = none ∧ failure.body? = none) ∨
    (isTyped r.body = true ∧ ∃ o, t.outgoing boundary r url = .ok o ∧
      o.headers = t.headersOf boundary (Userinfo.ofUrl? url) r) := by
  unfold outgoing
  extract_lets userinfo asked
  split
  · exact .inl ⟨_, rfl, rfl, rfl⟩
  · rename_i htyped
    split
    · exact .inl ⟨_, rfl, rfl, rfl⟩
    · exact .inr ⟨by simpa using htyped, _, rfl, rfl⟩

variable {r} {o : Outgoing}

lemma wire?_eq_some_iff : t.wire? boundary r = some o ↔
    ∃ url, t.resolve r.path = .ok url ∧ t.outgoing boundary r url = .ok o := by
  unfold wire?
  cases t.resolve r.path with
  | error e => simp [Except.toOption]
  | ok url => cases hout : t.outgoing boundary r url <;> simp [Except.toOption, hout]

lemma send_asks (h : t.wire? boundary r = some o) (network : Network) :
    (t.send boundary network r).1 = (network o).bind Response.reply := by
  obtain ⟨url, hurl, hout⟩ := (t.wire?_eq_some_iff boundary).mp h
  simp only [send, hurl, hout]

lemma send_refused (h : t.wire? boundary r = none) :
    ∃ failure, (∀ network, (t.send boundary network r).1 = .error failure) ∧
      failure.code? = none ∧ failure.body? = none := by
  cases hurl : t.resolve r.path with
  | error e => exact ⟨.invalidUrl e.message, fun _ => by simp only [send, hurl], rfl, rfl⟩
  | ok url =>
    obtain ⟨failure, hout, hcode, hbody⟩ | ⟨-, o, hout, -⟩ := t.outgoing_cases boundary r url
    · exact ⟨failure, fun _ => by simp only [send, hurl, hout], hcode, hbody⟩
    · cases h.symm.trans ((t.wire?_eq_some_iff boundary).mpr ⟨url, hurl, hout⟩)

lemma wire?_untyped (h : isTyped r.body = false) : t.wire? boundary r = none := by
  refine Option.eq_none_iff_forall_ne_some.mpr fun o ho => ?_
  obtain ⟨url, -, hout⟩ := (t.wire?_eq_some_iff boundary).mp ho
  obtain ⟨failure, herror, -⟩ | ⟨htyped, -⟩ := t.outgoing_cases boundary r url
  · cases herror.symm.trans hout
  · cases h.symm.trans htyped

lemma wire?_headers (h : t.wire? boundary r = some o) :
    o.headers = t.headersOf boundary (t.userinfo? r) r := by
  obtain ⟨url, hurl, hout⟩ := (t.wire?_eq_some_iff boundary).mp h
  have huserinfo : t.userinfo? r = Userinfo.ofUrl? url := by
    rw [userinfo?, hurl]
    rfl
  obtain ⟨failure, herror, -⟩ | ⟨-, o', hok, hheaders⟩ := t.outgoing_cases boundary r url
  · cases herror.symm.trans hout
  · cases hok.symm.trans hout
    rw [hheaders, huserinfo]

variable (r)

def configured? (name : HeaderName) : Option HeaderValue :=
  (t.defaultHeaders.values name).getLast?.or (standard.get? name)

/-- The value of a header that a request does not bring: credentials come from its URL first. -/
def added? (userinfo : Option Userinfo) (name : HeaderName) : Option HeaderValue :=
  (if name = .authorization then userinfo.map (·.authorization) else none).or (t.configured? name)

lemma standard_values (name : HeaderName) :
    standard.values name = (standard.get? name).toList := by
  by_cases haccept : HeaderName.accept = name
  · subst haccept
    decide
  · by_cases htype : HeaderName.contentType = name
    · subst htype
      decide
    · simp [standard, Headers.values, Headers.get?, haccept, htype]

lemma defaults_values (name : HeaderName) :
    t.defaults.values name = (t.configured? name).toList := by
  rw [defaults, Headers.values_insertAll, Headers.values_fill, configured?]
  cases hvalues : t.defaultHeaders.values name with
  | nil =>
    rw [if_pos rfl, standard_values]
    cases standard.get? name <;> rfl
  | cons v vs =>
    rw [if_neg (List.cons_ne_nil v vs), List.getLast?_cons]
    rfl

lemma userinfo_values (userinfo : Option Userinfo) (name : HeaderName) :
    (Headers.ofUserinfo userinfo).values name =
      (if name = .authorization then userinfo.map (·.authorization) else none).toList := by
  cases userinfo with
  | none => simp [Headers.ofUserinfo, Headers.values]
  | some i =>
    by_cases hname : name = .authorization
    · simp [Headers.ofUserinfo, Headers.values, hname]
    · simp [Headers.ofUserinfo, Headers.values, hname, Ne.symm hname]

lemma headersOf_values (userinfo : Option Userinfo) (name : HeaderName) :
    (t.headersOf boundary userinfo r).values name =
      if (ownHeaders boundary r).values name = [] then (t.added? userinfo name).toList
      else (ownHeaders boundary r).values name := by
  rw [headersOf, Headers.values_fill, Headers.values_fill, defaults_values, userinfo_values, added?]
  by_cases hown : (ownHeaders boundary r).values name = []
  · rw [if_pos hown, if_pos hown]
    cases (if name = .authorization then userinfo.map (·.authorization) else none) <;> rfl
  · rw [if_neg hown, if_neg hown, if_neg hown]

end Transport
end Http

/-! ### What the caller gives -/

namespace CallOptions

def given (fields : List (String × String)) (name : Http.HeaderName) : List Http.HeaderValue :=
  fields.filterMap fun (spelling, value) =>
    if Http.HeaderName.ofString? spelling = some name then Http.HeaderValue.ofString? value
    else none

lemma setHeader_ok {o o' : CallOptions} {spelling value : String}
    (h : o.setHeader spelling value = .ok o') :
    ∃ name v, Http.HeaderName.ofString? spelling = some name ∧
      Http.HeaderValue.ofString? value = some v ∧ o'.headers = o.headers.insert name v := by
  unfold setHeader Http.Headers.field at h
  split at h
  · cases h
  · rename_i name hname
    split at h
    · cases h
    · rename_i v hv
      cases h
      exact ⟨name, v, hname, hv, rfl⟩

lemma setHeaders_values {o options : CallOptions} {fields : List (String × String)}
    (h : o.setHeaders fields = .ok options) (name : Http.HeaderName) :
    options.headers.values name =
      (given fields name).getLast?.elim (o.headers.values name) ([·]) := by
  induction fields generalizing o with
  | nil =>
    cases h
    rfl
  | cons field fields ih =>
    obtain ⟨spelling, value⟩ := field
    rw [setHeaders, List.foldlM_cons] at h
    cases hfirst : o.setHeader spelling value with
    | error fault =>
      simp only [hfirst] at h
      cases h
    | ok o' =>
      simp only [hfirst] at h
      obtain ⟨other, v, hother, hv, hheaders⟩ := setHeader_ok hfirst
      rw [ih h, hheaders]
      by_cases hname : other = name
      · have hgiven : given ((spelling, value) :: fields) name = v :: given fields name := by
          simp [given, hother, hname, hv]
        rw [hgiven, List.getLast?_cons, hname, Http.Headers.values_insert_same]
        cases (given fields name).getLast? <;> rfl
      · have hgiven : given ((spelling, value) :: fields) name = given fields name := by
          simp [given, hother, hname]
        rw [hgiven, Http.Headers.values_insert_other hname]

end CallOptions

/-! ### Calls -/

lemma Endpoint.message_visible (e : Endpoint) : Envelope.Visible e.message := by
  refine Envelope.orElse_visible _ (Envelope.visible_iff.mpr ?_)
  cases e.verb <;> decide

namespace Operation

open Http (HeaderName HeaderValue Transport)

variable {op : Operation} {own : Http.Request} {options : CallOptions}
  {fields : List (String × String)} {name : HeaderName}

def headerSent? (op : Operation) (t : Transport) (boundary : String)
    (userinfo : Option Http.Userinfo) (fields : List (String × String)) (name : HeaderName) :
    Option HeaderValue :=
  match op.content with
  | .form _ =>
    if name = .contentType then some (Transport.formType boundary)
    else (CallOptions.given fields name).getLast?.or (t.added? userinfo name)
  | _ => (CallOptions.given fields name).getLast?.or (t.added? userinfo name)

lemma own_values (hoptions : CallOptions.setHeaders {} fields = .ok options)
    (hop : op.options.headers = options.headers) (hown : op.own? = some own)
    (hcontent : op.content.headers.values name = []) :
    own.headers.values name = (CallOptions.given fields name).getLast?.toList := by
  obtain ⟨body, -, rfl⟩ := Option.map_eq_some_iff.mp hown
  have hvalues := CallOptions.setHeaders_values hoptions name
  simp only [Http.Headers.values_insertAll, hop, hvalues, hcontent]
  cases (CallOptions.given fields name).getLast? <;> rfl

lemma headersOf_own (t : Transport) (boundary : String) (userinfo : Option Http.Userinfo)
    (hoptions : CallOptions.setHeaders {} fields = .ok options)
    (hop : op.options.headers = options.headers) (hown : op.own? = some own) :
    (t.headersOf boundary userinfo own).values name =
      (op.headerSent? t boundary userinfo fields name).toList := by
  have hfilled : op.content.headers.values name = [] →
      (if own.headers.values name = [] then (t.added? userinfo name).toList
        else own.headers.values name) =
      ((CallOptions.given fields name).getLast?.or (t.added? userinfo name)).toList := by
    intro hcontent
    rw [own_values hoptions hop hown hcontent]
    cases (CallOptions.given fields name).getLast? <;> rfl
  rw [Transport.headersOf_values, Transport.ownHeaders, headerSent?]
  obtain ⟨body, hbody, hrequest⟩ := Option.map_eq_some_iff.mp hown
  have hsame : own.body = body := by rw [← hrequest]
  rw [hsame]
  cases hcontent : op.content with
  | query params =>
    rw [hcontent] at hbody hfilled
    cases hbody
    exact hfilled rfl
  | json payload =>
    rw [hcontent] at hbody hfilled
    obtain ⟨bytes, -, rfl⟩ := Option.map_eq_some_iff.mp hbody
    exact hfilled rfl
  | form parts =>
    rw [hcontent] at hbody hfilled
    cases hbody
    by_cases hname : name = .contentType
    · simp only [hname, Http.Headers.values_insert_same,
        if_neg (List.cons_ne_nil _ _)]
      rfl
    · simp only [if_neg hname, Http.Headers.values_insert_other (Ne.symm hname)]
      exact hfilled (by simp [Content.headers, Http.Headers.values, Ne.symm hname])

end Operation

lemma Interceptor.reactAll_isQuiet (stack : List Interceptor) {r : Rejection}
    (h : r.failure.isUnauthorized = false) : (reactAll stack r).IsQuiet := by
  refine isQuiet_sequence fun s hs => ?_
  obtain ⟨i, -, rfl⟩ := List.mem_map.mp hs
  cases i with
  | tracing | observer => exact react_isQuiet r (by simp)
  | session timeout =>
    intro w
    rw [session_traffic]
    exact if_neg fun hexpired => Bool.false_ne_true (h.symm.trans hexpired.1)

namespace Client

variable (c : Client) {op : Operation} {own : Http.Request} (w : World)

lemma dispatch_refused {failure : Http.Failure} (hreply : w.traffic.reply = .error failure)
    (hcode : failure.code? = none) (r : Http.Request) :
    ((c.dispatch r).run w).2.traffic = w.traffic.ask r := by
  have hunauthorized : failure.isUnauthorized = false := by
    rw [Http.Failure.isUnauthorized, hcode]
    rfl
  simp only [dispatch, bind_eq, run_bind, run_sends, hreply]
  exact Interceptor.reactAll_isQuiet c.interceptors (r := ⟨r.method, r.path, failure⟩)
    hunauthorized _

lemma call_refused {failure : Http.Failure} (hown : op.own? = some own)
    (hreply : w.traffic.reply = .error failure) (hcode : failure.code? = none)
    (hbody : failure.body? = none) :
    ((c.call op).run w).1 = ⟨false, op.endpoint.message, none⟩ ∧
      ((c.call op).run w).2.traffic = w.traffic.ask own := by
  constructor
  · have hupshot := c.call_upshot op w
    rw [hreply, Operation.settlement_rejected (by simp [hown])] at hupshot
    refine (congrArg Prod.fst hupshot).trans ?_
    have hmessage : Envelope.failureMessage failure op.endpoint.message = op.endpoint.message := by
      rw [Envelope.failureMessage, hbody]
      rfl
    rw [Envelope.ofFailure, hmessage, Envelope.reject,
      Envelope.orElse_of_visible op.endpoint.message_visible]
  · let sent := w.log (.sending op.endpoint.verb own.path (some own.body.size))
    have hdispatch := c.dispatch_refused sent.tick hreply hcode own
    unfold call
    simp only [op.request_eq, hown, execute, bind_eq, run_bind, run_timed]
    exact (conclude_isQuiet op own _ _).trans hdispatch

end Client

/-- Under every name the network is asked with the value that the caller gives last, however the
name is spelled. Where the caller gives none, credentials are made of the name and password in the
request's URL; the last configured value comes after them, and JSON is the type where there is
neither. Only the type of a form is always its own. A call with a part whose type is no media type
comes to its fallback, and the network is not asked for it. -/
theorem headers_by_precedence (t : Http.Transport) (boundary : String) (op : Operation)
    (own : Http.Request) (fields : List (String × String)) (options : CallOptions)
    (hoptions : CallOptions.setHeaders {} fields = .ok options)
    (hop : op.options.headers = options.headers) (hown : op.own? = some own) :
    (∀ o, t.wire? boundary own = some o →
      (∀ network, (t.send boundary network own).1 = (network o).bind Http.Response.reply) ∧
      ∀ name value, op.headerSent? t boundary (t.userinfo? own) fields name = some value →
        o.headers.values name = [value]) ∧
    ∀ parts name filename contentType bytes, op.content = .form parts →
      .file name filename (some contentType) bytes ∈ parts →
      Http.MediaType.isValid contentType = false →
      t.wire? boundary own = none ∧
      ∃ failure, (∀ network, (t.send boundary network own).1 = .error failure) ∧
      ∀ (c : Client) (w : World), w.replies.headD World.noReply = .error failure →
        let run := (c.perform (.call op)).run w
        run.1 = .envelope ⟨false, op.endpoint.message, none⟩ ∧
        run.2.sent.filterMap (t.wire? boundary) = w.sent.filterMap (t.wire? boundary) := by
  refine ⟨fun o hwire => ⟨t.send_asks boundary hwire, fun name value hvalue => ?_⟩, ?_⟩
  · rw [t.wire?_headers boundary hwire,
      Operation.headersOf_own t boundary (t.userinfo? own) hoptions hop hown, hvalue,
      Option.toList_some]
  · intro parts name filename contentType bytes hcontent hpart htype
    have hbody : own.body = .form parts := by
      obtain ⟨body, hbody, rfl⟩ := Option.map_eq_some_iff.mp hown
      rw [hcontent] at hbody
      cases hbody
      rfl
    have htyped : Http.Transport.isTyped own.body = false := by
      rw [hbody, Http.Transport.isTyped, List.all_eq_false]
      exact ⟨_, hpart, by simpa using htype⟩
    have hwire := t.wire?_untyped boundary htyped
    obtain ⟨failure, hfailure, hcode, hnone⟩ := t.send_refused boundary hwire
    refine ⟨hwire, failure, hfailure, fun c w hreply => ?_⟩
    obtain ⟨hresult, htraffic⟩ := c.call_refused w hown hreply hcode hnone
    have hsent : ((c.call op).run w).2.sent = w.sent ++ [own] := congrArg Traffic.sent htraffic
    simp only [Client.perform, bind_eq, run_bind]
    refine ⟨congrArg Result.envelope hresult, ?_⟩
    refine (congrArg (List.filterMap (t.wire? boundary)) hsent).trans ?_
    simp [hwire]

def loginApi : Http.Transport where
  baseUrl :=
    { scheme := "http".toList
      authority := some ⟨"u".toList, "p".toList, .name "console.test".toList, none⟩
      path := .rooted ["api".toList, []]
      query := none
      fragment := none }
  defaultHeaders :=
    [(⟨"x-tag"⟩, [0x61]), (.authorization, Text.Utf8.encode "Bearer t"), (⟨"x-tag"⟩, [0x62])]

theorem url_credentials_before_configured :
    (Http.Transport.ofConfig
      { origin := "http://u:p@console.test", defaultHeaders := loginApi.defaultHeaders }).toOption =
        some loginApi ∧
    loginApi.defaultHeaders.values .authorization = [Text.Utf8.encode "Bearer t"] ∧
    ∃ own o, Resources.stats.own? = some own ∧ own.headers = [] ∧
      loginApi.wire? "b" own = some o ∧
      o.headers.values .authorization = [Text.Utf8.encode "Basic dTpw"] := by
  refine ⟨by decide +kernel, by decide +kernel, ?_⟩
  have hreached : ((loginApi.wire? "b" ⟨"GET", "/stats", [], .empty, none⟩).map
      (·.headers.values .authorization)) = some [Text.Utf8.encode "Basic dTpw"] := by
    decide +kernel
  obtain ⟨o, hwire, hsent⟩ := Option.map_eq_some_iff.mp hreached
  exact ⟨_, o, rfl, rfl, hwire, hsent⟩

def ownFields : List (String × String) :=
  [("X-Trace", "1"), ("Content-Type", "text/plain"), ("x-trace", "2")]

def typedUpload (contentType : String) : Operation :=
  { Resources.Objects.put ⟨"docs", "a.txt", some contentType, "a.txt", [0x61]⟩ with
    options :=
      { headers := [(.contentType, Text.Utf8.encode "text/plain"), (⟨"x-trace"⟩, [0x32])] } }

theorem upload_headers_by_precedence :
    (∃ own o, (typedUpload "text/html").own? = some own ∧ loginApi.wire? "b" own = some o ∧
      o.headers.values .contentType = [Http.Transport.formType "b"] ∧
      o.headers.values .authorization = [Text.Utf8.encode "Basic dTpw"] ∧
      o.headers.values ⟨"x-trace"⟩ = [[0x32]] ∧ o.headers.values ⟨"x-tag"⟩ = [[0x62]]) ∧
    ∃ own, (typedUpload "no type").own? = some own ∧ loginApi.wire? "b" own = none ∧
      ((Client.plain.perform (.call (typedUpload "no type"))).run (.showing "/objects"
        [(loginApi.send "b" .unreachable own).1])).1 =
        .envelope ⟨false, "Failed to put object", none⟩ := by
  constructor
  · have hreached : ((typedUpload "text/html").own?.bind (loginApi.wire? "b")).isSome := by
      decide +kernel
    obtain ⟨o, hboth⟩ := Option.isSome_iff_exists.mp hreached
    obtain ⟨own, hown, hwire⟩ := Option.bind_eq_some_iff.mp hboth
    obtain ⟨hsent, -⟩ := headers_by_precedence loginApi "b" (typedUpload "text/html") own ownFields
      _ rfl rfl hown
    obtain ⟨-, hvalues⟩ := hsent o hwire
    cases hown
    exact ⟨_, o, rfl, hwire, hvalues _ _ (by decide +kernel), hvalues _ _ (by decide +kernel),
      hvalues _ _ (by decide +kernel), hvalues _ _ (by decide +kernel)⟩
  · obtain ⟨-, hrefused⟩ := headers_by_precedence loginApi "b" (typedUpload "no type") _ ownFields
      _ rfl rfl rfl
    obtain ⟨hwire, failure, hfailure, hcall⟩ := hrefused _ "file" "a.txt" "no type" [0x61] rfl
      (by decide) (by decide +kernel)
    exact ⟨_, rfl, hwire, (hcall Client.plain (.showing "/objects" [_]) (hfailure .unreachable)).1⟩

end StorageConsole
