import StorageConsole.Text.Blank
import StorageConsole.Text.Quoted

namespace StorageConsole

inductive Language where
  | zh
  | en
  deriving DecidableEq, Repr

def Language.text : Language → String
  | .zh => "zh"
  | .en => "en"

structure S3Credentials where
  accessKeyId : String
  secretAccessKey : String
  region : String := "us-east-1"
  endpoint : Option String := none
  deriving DecidableEq, Repr

namespace S3Credentials

def isConfigured (c : S3Credentials) : Bool := !Text.blank c.accessKeyId

def requiresPathStyle (c : S3Credentials) : Bool := c.endpoint.any (!Text.blank ·)

end S3Credentials

structure Preferences where
  language : Language := .zh
  s3 : Option S3Credentials := none
  deriving DecidableEq, Repr

namespace Preferences

def usable? (p : Preferences) : Option S3Credentials := p.s3.filter (·.isConfigured)

def describeCredentials (c : S3Credentials) : String :=
  "S3Credentials \x7b access_key_id: " ++ Text.Quoted.quote c.accessKeyId
    ++ ", secret_access_key: SecretBox<str>([REDACTED]), region: " ++ Text.Quoted.quote c.region
    ++ ", endpoint: "
    ++ (match c.endpoint with
      | some e => "Some(" ++ Text.Quoted.quote e ++ ")"
      | none => "None")
    ++ " \x7d"

def describe (p : Preferences) : String :=
  "Preferences \x7b language: " ++ (match p.language with | .zh => "Zh" | .en => "En")
    ++ ", s3: "
    ++ (match p.s3 with
      | some c => "Some(" ++ describeCredentials c ++ ")"
      | none => "None")
    ++ " \x7d"

end Preferences
end StorageConsole
