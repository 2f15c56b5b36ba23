import StorageConsole.Client.Basic
import StorageConsole.Config.Duration
import StorageConsole.Http.Transport
import StorageConsole.Text.Quoted

namespace StorageConsole

structure Console where
  client : Client
  transport : Http.Transport
  history : History
  downloadDir : String

structure Builder where
  config : Config := {}
  page : Option String := none
  interceptors : List Interceptor := []
  userDownloads : Option String := none

namespace Builder

inductive Step where
  | origin (text : String)
  | basePath (text : String)
  | timeout (ms : Nat)
  | logoutTimeout (ms : Nat)
  | credentials (policy : Credentials)
  | defaultHeader (name value : String)
  | downloadDir (path : String)
  | config (c : Config)
  | page (path : String)
  | interceptor (i : Interceptor)

def take (b : Builder) : Step → Except Fault Builder
  | .origin text => .ok { b with config.origin := text }
  | .basePath text => .ok { b with config.basePath := text }
  | .timeout ms => .ok { b with config.timeout := some ms }
  | .logoutTimeout ms => .ok { b with config.logoutTimeout := ms }
  | .credentials policy => .ok { b with config.credentials := policy }
  | .defaultHeader name value =>
    match Http.HeaderName.ofString? name with
    | none => .error (.invalidHeaderName name)
    | some n =>
      match Http.HeaderValue.ofString? value with
      | none => .error (.invalidHeaderValue value)
      | some v => .ok { b with config.defaultHeaders := b.config.defaultHeaders.insert n v }
  | .downloadDir path => .ok { b with config.downloadDir := some path }
  | .config c => .ok { b with config := c }
  | .page path => .ok { b with page := some path }
  | .interceptor i => .ok { b with interceptors := b.interceptors ++ [i] }

def takeAll (b : Builder) (steps : List Step) : Except Fault Builder :=
  steps.foldlM take b

def build (b : Builder) : Except Fault Console :=
  (Http.Transport.ofConfig b.config).map fun transport => {
    client := {
      baseUrl := transport.baseUrl
      credentials := b.config.credentials
      logoutTimeout := b.config.logoutTimeout
      interceptors := Client.builtIn b.config.logoutTimeout ++ b.interceptors }
    transport := transport
    history := { current := b.page.getD "/" }
    downloadDir := b.config.resolvedDownloadDir b.userDownloads }

def ofConfig (c : Config) : Except Fault Console := build { config := c }

end Builder

namespace Client

def describeContext (baseUrl : Url) (credentials : Credentials) (page : String) : String :=
  "ClientContext \x7b base_url: " ++ Text.Quoted.quote baseUrl.text ++ ", credentials: "
    ++ (match credentials with | .include => "Include" | .omit => "Omit")
    ++ ", current_path: " ++ Text.Quoted.quote page ++ " \x7d"

def describe (c : Client) (page : String) : String :=
  "Client \x7b context: " ++ describeContext c.baseUrl c.credentials page ++ ", interceptors: "
    ++ toString c.interceptors.length ++ ", logout_timeout: " ++ durationText c.logoutTimeout
    ++ " \x7d"

end Client
end StorageConsole
