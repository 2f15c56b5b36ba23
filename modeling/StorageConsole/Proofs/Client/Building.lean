import StorageConsole.Client.Builder
import StorageConsole.Proofs.Config.Settings

/-! Settings give one client, whether they go into a configuration or to a builder. -/

namespace StorageConsole

open Config (last firstFault Results SameGiven)

namespace Console

def ofLast (settings : List Config.Setting) (userDir : Option String) (baseUrl : Url)
    (headers : Http.Headers) : Console :=
  let credentials := (last .credentials settings).getD .include
  let logoutTimeout := (last .logoutTimeout settings).getD (2000 : Nat)
  { client := {
      baseUrl := baseUrl
      credentials := credentials
      logoutTimeout := logoutTimeout
      interceptors := Client.builtIn logoutTimeout }
    transport := {
      baseUrl := baseUrl
      credentials := credentials
      timeout := last .timeout settings
      defaultHeaders := headers }
    history := { current := "/" }
    downloadDir := ((last .downloadDir settings).or userDir).getD "." }

structure Alike (k k' : Console) : Prop where
  headers : ∀ name,
    k.transport.defaultHeaders.values name = k'.transport.defaultHeaders.values name
  rest : { k with transport.defaultHeaders := [] } = { k' with transport.defaultHeaders := [] }

lemma ofLast_alike {settings settings' : List Config.Setting} (h : SameGiven settings settings')
    (userDir : Option String) (baseUrl : Url) {headers headers' : Http.Headers}
    (hheaders : ∀ name, headers.values name = headers'.values name) :
    (ofLast settings userDir baseUrl headers).Alike
      (ofLast settings' userDir baseUrl headers') where
  headers := hheaders
  rest := by
    simp only [ofLast, h .credentials, h .logoutTimeout, h .timeout, h .downloadDir]

end Console

namespace Builder

inductive Setting where
  | origin (text : String)
  | basePath (text : String)
  | timeout (ms : Nat)
  | logoutTimeout (ms : Nat)
  | credentials (policy : Credentials)
  | defaultHeader (name value : String)
  | downloadDir (path : String)
  deriving DecidableEq

namespace Setting

def ofConfig : Setting → Config.Setting
  | origin text => .origin text
  | basePath text => .basePath text
  | timeout ms => .timeout ms
  | logoutTimeout ms => .logoutTimeout ms
  | credentials policy => .credentials policy
  | defaultHeader name value => .defaultHeader name value
  | downloadDir path => .downloadDir path

def ofBuilder : Setting → Step
  | origin text => .origin text
  | basePath text => .basePath text
  | timeout ms => .timeout ms
  | logoutTimeout ms => .logoutTimeout ms
  | credentials policy => .credentials policy
  | defaultHeader name value => .defaultHeader name value
  | downloadDir path => .downloadDir path

end Setting

inductive SameOutcome : Except Fault Console → Except Fault Console → Prop
  | refused (fault : Fault) : SameOutcome (.error fault) (.error fault)
  | made {k k' : Console} : k.Alike k' → SameOutcome (.ok k) (.ok k')

variable (userDir : Option String)

def fresh : Builder := { userDownloads := userDir }

def built (settings : List Setting) : Except Fault Console :=
  ((fresh userDir).takeAll (settings.map Setting.ofBuilder)).bind build

def configured (settings : List Setting) : Except Fault Console :=
  (Config.setAll {} (settings.map Setting.ofConfig)).bind fun c =>
    ((fresh userDir).take (.config c)).bind build

lemma take_setting (b : Builder) (s : Setting) :
    b.take s.ofBuilder = (b.config.set s.ofConfig).map fun c => { b with config := c } := by
  cases s with
  | defaultHeader name value =>
    simp only [Setting.ofBuilder, Setting.ofConfig, take, Config.set, Http.Headers.field]
    cases Http.HeaderName.ofString? name with
    | none => rfl
    | some n => cases Http.HeaderValue.ofString? value <;> rfl
  | origin | basePath | timeout | logoutTimeout | credentials | downloadDir => rfl

lemma takeAll_settings (settings : List Setting) (b : Builder) :
    b.takeAll (settings.map Setting.ofBuilder) = (b.config.setAll
      (settings.map Setting.ofConfig)).map fun c => { b with config := c } := by
  induction settings generalizing b with
  | nil => rfl
  | cons s settings ih =>
    have hcons : b.takeAll ((s :: settings).map Setting.ofBuilder) =
        (b.take s.ofBuilder).bind fun b' => b'.takeAll (settings.map Setting.ofBuilder) := rfl
    rw [hcons, List.map_cons, Config.setAll_cons, take_setting]
    cases b.config.set s.ofConfig with
    | error fault => rfl
    | ok c => exact ih _

lemma built_eq_configured (settings : List Setting) :
    built userDir settings = configured userDir settings := by
  have hconfig : (fresh userDir).config = {} := rfl
  rw [built, configured, takeAll_settings, hconfig]
  cases Config.setAll {} (settings.map Setting.ofConfig) <;> rfl

def settingFault (settings : List Setting) : Option Fault :=
  firstFault (settings.map Setting.ofConfig)

variable {settings : List Setting}

lemma built_refused {fault : Fault} (h : settingFault settings = some fault) :
    built userDir settings = .error fault := by
  rw [built_eq_configured, configured]
  obtain ⟨fault', hfault, hset⟩ | ⟨hnone, -⟩ :=
    Config.setAll_cases {} (settings.map Setting.ofConfig)
  · obtain rfl := Option.some.inj (h.symm.trans hfault)
    rw [hset]
    rfl
  · cases h.symm.trans hnone

def lastUrl (settings : List Config.Setting) : Except Url.Fault Url :=
  Url.ofOrigin ((last .origin settings).getD "http://127.0.0.1:3002")
    ((last .basePath settings).getD "/api")

lemma built_cases (h : settingFault settings = none) :
    ∃ c, Results (settings.map Setting.ofConfig) {} c ∧
      Url.ofOrigin c.origin c.basePath = lastUrl (settings.map Setting.ofConfig) ∧
      built userDir settings = build { config := c, userDownloads := userDir } := by
  obtain ⟨fault, hfault, -⟩ | ⟨-, c, hset, hresults⟩ :=
    Config.setAll_cases {} (settings.map Setting.ofConfig)
  · cases h.symm.trans hfault
  · refine ⟨c, hresults, ?_, ?_⟩
    · rw [hresults.getD (f := .origin) rfl rfl, hresults.getD (f := .basePath) rfl rfl, lastUrl]
    · rw [built_eq_configured, configured, hset]
      rfl

lemma built_url_refused (h : settingFault settings = none) {e : Url.Fault}
    (hurl : lastUrl (settings.map Setting.ofConfig) = .error e) :
    built userDir settings = .error (.invalidUrl e.message) := by
  obtain ⟨c, -, hc, hbuilt⟩ := built_cases userDir h
  rw [hurl] at hc
  rw [hbuilt]
  simp [build, Http.Transport.ofConfig, hc, Except.map]

lemma last_connectTimeout (settings : List Setting) :
    last .connectTimeout (settings.map Setting.ofConfig) = none := by
  have hnone : settings.filterMap (Config.Setting.value? .connectTimeout ∘ Setting.ofConfig) = [] :=
    List.filterMap_eq_nil_iff.mpr fun s _ => by cases s <;> rfl
  rw [last, List.filterMap_map, hnone, List.getLast?_nil]

lemma built_made (h : settingFault settings = none) {baseUrl : Url}
    (hurl : lastUrl (settings.map Setting.ofConfig) = .ok baseUrl) :
    let given := settings.map Setting.ofConfig
    ∃ headers, (∀ name, headers.values name = (last (.header name) given).toList) ∧
      built userDir settings = .ok (.ofLast given userDir baseUrl headers) := by
  intro given
  obtain ⟨c, hresults, hc, hbuilt⟩ := built_cases userDir h
  rw [hurl] at hc
  refine ⟨c.defaultHeaders, fun name => ?_, ?_⟩
  · have hvalues : c.defaultHeaders.values name =
        (last (.header name) given).elim [] ([·]) := hresults (.header name)
    rw [hvalues]
    cases last (.header name) given <;> rfl
  · have htimeout : c.timeout = (last .timeout given).or none :=
      hresults.or (f := .timeout) rfl rfl
    have hconnect : c.connectTimeout = 10000 := by
      rw [hresults.getD (f := .connectTimeout) rfl rfl, last_connectTimeout]
      rfl
    have hlogout := hresults.getD (f := .logoutTimeout) rfl rfl
    have hcredentials := hresults.getD (f := .credentials) rfl rfl
    have hdir : c.downloadDir = (last .downloadDir given).or none :=
      hresults.or (f := .downloadDir) rfl rfl
    rw [Option.or_none] at htimeout hdir
    rw [hbuilt]
    simp [build, Http.Transport.ofConfig, hc, Except.map, Console.ofLast, htimeout, hconnect,
      hlogout, hcredentials, hdir, Config.resolvedDownloadDir, given]

lemma built_same {settings' : List Setting}
    (hfault : settingFault settings = settingFault settings')
    (hsame : SameGiven (settings.map Setting.ofConfig) (settings'.map Setting.ofConfig)) :
    SameOutcome (built userDir settings) (built userDir settings') := by
  cases hfirst : settingFault settings with
  | some fault =>
    rw [built_refused userDir hfirst, built_refused userDir (hfault.symm.trans hfirst)]
    exact .refused fault
  | none =>
    have hfirst' : settingFault settings' = none := hfault.symm.trans hfirst
    have hlast : lastUrl (settings'.map Setting.ofConfig) =
        lastUrl (settings.map Setting.ofConfig) := by
      rw [lastUrl, lastUrl, hsame .origin, hsame .basePath]
    cases hurl : lastUrl (settings.map Setting.ofConfig) with
    | error e =>
      rw [built_url_refused userDir hfirst hurl,
        built_url_refused userDir hfirst' (hlast.trans hurl)]
      exact .refused _
    | ok baseUrl =>
      obtain ⟨headers, hheaders, hbuilt⟩ := built_made userDir hfirst hurl
      obtain ⟨headers', hheaders', hbuilt'⟩ := built_made userDir hfirst' (hlast.trans hurl)
      rw [hbuilt, hbuilt']
      refine .made (Console.ofLast_alike hsame userDir baseUrl fun name => ?_)
      rw [hheaders, hheaders', hsame (.header name)]

namespace Step

def fault? : Step → Option Fault
  | .defaultHeader name value => (Config.Setting.defaultHeader name value).fault?
  | _ => none

def page? : Step → Option String
  | .page path => some path
  | _ => none

def interceptor? : Step → Option Interceptor
  | .interceptor i => some i
  | _ => none

end Step

structure Adds (steps : List Step) (b b' : Builder) : Prop where
  page : b'.page = (steps.filterMap Step.page?).getLast?.or b.page
  interceptors : b'.interceptors = b.interceptors ++ steps.filterMap Step.interceptor?
  userDownloads : b'.userDownloads = b.userDownloads

lemma Adds.append {steps more : List Step} {b b' b'' : Builder} (h : Adds steps b b')
    (h' : Adds more b' b'') : Adds (steps ++ more) b b'' where
  page := by
    rw [h'.page, h.page, List.filterMap_append, List.getLast?_append, Option.or_assoc]
  interceptors := by
    rw [h'.interceptors, h.interceptors, List.filterMap_append, List.append_assoc]
  userDownloads := by rw [h'.userDownloads, h.userDownloads]

lemma take_cases (b : Builder) (s : Step) :
    (∃ fault, s.fault? = some fault ∧ b.take s = .error fault) ∨
      (s.fault? = none ∧ ∃ b', b.take s = .ok b' ∧ Adds [s] b b') := by
  cases s with
  | defaultHeader name value =>
    have htake := b.take_setting (.defaultHeader name value)
    obtain ⟨fault, hfault, hset⟩ | ⟨hnone, c, hset, -⟩ :=
      b.config.set_cases (.defaultHeader name value)
    · simp only [Setting.ofConfig, hset] at htake
      exact .inl ⟨fault, hfault, htake⟩
    · simp only [Setting.ofConfig, hset] at htake
      exact .inr ⟨hnone, _, htake, rfl, (List.append_nil _).symm, rfl⟩
  | origin | basePath | timeout | logoutTimeout | credentials | downloadDir | config | page =>
    exact .inr ⟨rfl, _, rfl, rfl, (List.append_nil _).symm, rfl⟩
  | interceptor i => exact .inr ⟨rfl, _, rfl, rfl, rfl, rfl⟩

lemma takeAll_cases (b : Builder) (steps : List Step) :
    (∃ fault, steps.findSome? Step.fault? = some fault ∧ b.takeAll steps = .error fault) ∨
      (steps.findSome? Step.fault? = none ∧ ∃ b', b.takeAll steps = .ok b' ∧ Adds steps b b') := by
  induction steps generalizing b with
  | nil => exact .inr ⟨rfl, b, rfl, rfl, (List.append_nil _).symm, rfl⟩
  | cons s steps ih =>
    have hcons : b.takeAll (s :: steps) = (b.take s).bind fun b' => b'.takeAll steps := rfl
    rw [List.findSome?_cons, hcons]
    obtain ⟨fault, hfault, htake⟩ | ⟨hnone, b', htake, hadds⟩ := b.take_cases s
    · rw [hfault, htake]
      exact .inl ⟨fault, rfl, rfl⟩
    · rw [hnone, htake]
      obtain ⟨fault, hfault, hall⟩ | ⟨hnone, b'', hall, hmore⟩ := ih b'
      · exact .inl ⟨fault, hfault, hall⟩
      · exact .inr ⟨hnone, b'', hall, hadds.append hmore⟩

lemma takeAll_config (b : Builder) (before after : List Step) (c : Config) :
    (∀ fault, before.findSome? Step.fault? = some fault →
      b.takeAll (before ++ .config c :: after) = .error fault) ∧
    (before.findSome? Step.fault? = none →
      b.takeAll (before ++ .config c :: after) = Builder.takeAll
        { config := c
          page := (before.filterMap Step.page?).getLast?.or b.page
          interceptors := b.interceptors ++ before.filterMap Step.interceptor?
          userDownloads := b.userDownloads } after) := by
  have happend : b.takeAll (before ++ .config c :: after) = (b.takeAll before).bind fun b' =>
      Builder.takeAll { b' with config := c } after := List.foldlM_append
  rw [happend]
  obtain ⟨fault, hfault, htake⟩ | ⟨hnone, b', htake, hadds⟩ := b.takeAll_cases before
  · rw [htake, hfault]
    exact ⟨fun _ h => by rw [Option.some.inj h]; rfl, fun h => nomatch h⟩
  · rw [htake, hnone, ← hadds.page, ← hadds.interceptors, ← hadds.userDownloads]
    exact ⟨fun _ h => (nomatch h), fun _ => rfl⟩

/-- A configuration made by settings and a builder told the same settings give the same: the fault
of the first header that is none, or that of the URL, or a client with what was set last. The order
of settings that are about different things makes no difference but to the order of headers. In a
builder a configuration takes the place of the settings before it; what was told of the page and of
interceptors stays. -/
theorem builders_agree (userDir : Option String) (settings : List Setting) :
    let given := settings.map Setting.ofConfig
    configured userDir settings = built userDir settings ∧
    (Config.setAll {} given).bind ofConfig = built none settings ∧
    (∀ fault, firstFault given = some fault → built userDir settings = .error fault) ∧
    (firstFault given = none →
      (∀ e, lastUrl given = .error e → built userDir settings = .error (.invalidUrl e.message)) ∧
      ∀ baseUrl, lastUrl given = .ok baseUrl → ∃ headers,
        (∀ name, headers.values name = (last (.header name) given).toList) ∧
        built userDir settings = .ok (.ofLast given userDir baseUrl headers)) ∧
    (∀ settings' : List Setting, firstFault given = firstFault (settings'.map Setting.ofConfig) →
      SameGiven given (settings'.map Setting.ofConfig) →
      SameOutcome (built userDir settings) (built userDir settings')) ∧
    (∀ before s s' after, settings = before ++ s :: s' :: after → firstFault given = none →
      s.ofConfig.field? ≠ s'.ofConfig.field? →
      SameOutcome (built userDir settings) (built userDir (before ++ s' :: s :: after))) ∧
    ∀ (b : Builder) (before after : List Step) (c : Config),
      (∀ fault, before.findSome? Step.fault? = some fault →
        b.takeAll (before ++ .config c :: after) = .error fault) ∧
      (before.findSome? Step.fault? = none →
        b.takeAll (before ++ .config c :: after) = Builder.takeAll
          { config := c
            page := (before.filterMap Step.page?).getLast?.or b.page
            interceptors := b.interceptors ++ before.filterMap Step.interceptor?
            userDownloads := b.userDownloads } after) := by
  intro given
  refine ⟨(built_eq_configured userDir settings).symm, (built_eq_configured none settings).symm,
    fun fault => built_refused userDir,
    fun hnone => ⟨fun e => built_url_refused userDir hnone,
      fun baseUrl => built_made userDir hnone⟩,
    fun settings' => built_same userDir, ?swap, takeAll_config⟩
  case swap =>
    rintro before s s' after rfl hnone hfield
    have hnone' : settingFault (before ++ s' :: s :: after) = none := by
      rw [settingFault, Config.firstFault_eq_none_iff]
      rw [Config.firstFault_eq_none_iff] at hnone
      intro t ht
      apply hnone t
      simp only [given, List.map_append, List.map_cons, List.mem_append, List.mem_cons] at ht ⊢
      tauto
    refine built_same userDir (hnone.trans hnone'.symm) ?_
    simp only [List.map_append, List.map_cons]
    exact Config.sameGiven_swap hfield

def sampleSettings : List Setting :=
  [.defaultHeader "X-Team" "a", .origin "https://s3.test", .defaultHeader "x-team" "b"]

theorem sample_builders_agree :
    let given := sampleSettings.map Setting.ofConfig
    firstFault given = none ∧
    (∃ baseUrl headers, lastUrl given = .ok baseUrl ∧ baseUrl.text = "https://s3.test/api/" ∧
      headers.values ⟨"x-team"⟩ = [Text.Utf8.encode "b"] ∧
      (Config.setAll {} given).bind ofConfig = .ok (.ofLast given none baseUrl headers)) ∧
    SameOutcome (built none sampleSettings) (built none
      [.defaultHeader "X-Team" "a", .defaultHeader "x-team" "b", .origin "https://s3.test"]) ∧
    Builder.takeAll {} [.page "/buckets", .origin "https://s3.test", .config {}] =
      .ok { page := some "/buckets" } := by
  intro given
  have hnone : firstFault given = none := by decide
  obtain ⟨-, hconfig, -, hmade, -, hswap, hreplaced⟩ := builders_agree none sampleSettings
  let baseUrl : Url := ⟨"https".toList, some ⟨[], [], .name "s3.test".toList, none⟩,
    .rooted ["api".toList, []], none, none⟩
  have horigin : last .origin given = some "https://s3.test" := rfl
  have hbasePath : last .basePath given = none := rfl
  have hurl : lastUrl given = .ok baseUrl := by
    rw [lastUrl, horigin, hbasePath]
    rfl
  obtain ⟨headers, hheaders, hbuilt⟩ := (hmade hnone).2 baseUrl hurl
  refine ⟨hnone, ⟨baseUrl, headers, hurl, by decide, ?_, ?_⟩, ?_, ?_⟩
  · rw [hheaders]
    decide
  · rw [hconfig, hbuilt]
  · exact hswap [.defaultHeader "X-Team" "a"] _ _ [] rfl hnone (by decide)
  · exact (hreplaced {} [.page "/buckets", .origin "https://s3.test"] [] {}).2 rfl

example : built none [.defaultHeader "X Team" "\n", .origin "", .defaultHeader "x-team" "\n"] =
    .error (.invalidHeaderName "X Team") := rfl

end Builder
end StorageConsole
