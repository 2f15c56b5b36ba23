import StorageConsole.Json.Printer
import StorageConsole.Json.Record
import StorageConsole.Preferences.Basic

namespace StorageConsole.Preferences

def credentialsValue (c : S3Credentials) : Json.Value :=
  .object ([("accessKeyId", .string c.accessKeyId), ("secretAccessKey", .string c.secretAccessKey),
    ("region", .string c.region)]
    ++ (c.endpoint.map fun e => ("endpoint", Json.Value.string e)).toList)

def value (p : Preferences) : Json.Value :=
  .object ([("language", .string p.language.text)]
    ++ (p.s3.map fun c => ("s3-credentials", credentialsValue c)).toList)

def encode (p : Preferences) : Bytes := p.value.prettyBytes

open Json (Read Fault)

def readLanguageName (bs : Bytes) : Read Language :=
  match Json.Scan.skipSpace bs with
  | [] => .error .truncated
  | b :: rest =>
    if b = 0x22 then
      match Json.Scan.string rest with
      | .error e => .error e
      | .ok (name, rest) =>
        if name = "zh" then .ok (.zh, rest)
        else if name = "en" then .ok (.en, rest)
        else .error (.mismatch (.unknownVariant name "zh" "en"))
    else .error (Json.Record.unwanted .variant bs)

def readNull (bs : Bytes) : Except Fault Bytes :=
  match Json.Scan.skipSpace bs with
  | [] => .error .truncated
  | b :: rest =>
    if b = 0x6E then Json.Scan.literal [0x75, 0x6C, 0x6C] rest
    else .error (Json.Record.unwanted .unit bs)

def readLanguage (depth : Nat) (bs : Bytes) : Read Language :=
  match Json.Scan.skipSpace bs with
  | [] => .error .truncated
  | b :: rest =>
    if b = 0x22 then readLanguageName bs
    else if b = 0x7B then
      match depth with
      | 0 => .error .malformed
      | _ + 1 =>
        match readLanguageName rest with
        | .error e => .error e
        | .ok (l, rest) =>
          match Json.Scan.colon rest with
          | .error e => .error e
          | .ok rest =>
            match readNull rest with
            | .error e => .error e
            | .ok rest =>
              match Json.Scan.skipSpace rest with
              | [] => .error .truncated
              | b :: rest => if b = 0x7D then .ok (l, rest) else .error .malformed
    else .error .malformed

structure CredentialsDraft where
  accessKeyId : Option String := none
  secretAccessKey : Option String := none
  region : Option String := none
  endpoint : Option (Option String) := none

def credentialsShape : Json.Record.Shape CredentialsDraft where
  name := "S3Credentials"
  fields := [
    { name := "accessKeyId"
      read := fun _ draft bs =>
        (Json.Record.string bs).map fun (s, rest) => ({ draft with accessKeyId := some s }, rest)
      present := (·.accessKeyId.isSome)
      required := false },
    { name := "secretAccessKey"
      read := fun _ draft bs =>
        (Json.Record.string bs).map fun (s, rest) =>
          ({ draft with secretAccessKey := some s }, rest)
      present := (·.secretAccessKey.isSome)
      required := true },
    { name := "region"
      read := fun _ draft bs =>
        (Json.Record.string bs).map fun (s, rest) => ({ draft with region := some s }, rest)
      present := (·.region.isSome)
      required := false },
    { name := "endpoint"
      read := fun _ draft bs =>
        (Json.Record.optional Json.Record.string bs).map
          fun (e, rest) => ({ draft with endpoint := some e }, rest)
      present := (·.endpoint.isSome)
      required := false }]

def readCredentials (depth : Nat) (bs : Bytes) : Read S3Credentials :=
  (Json.Record.record credentialsShape {} depth bs).map fun (draft, rest) =>
    let secret := draft.secretAccessKey.getD ""
    let base : S3Credentials := { accessKeyId := "", secretAccessKey := secret }
    ({ accessKeyId := draft.accessKeyId.getD base.accessKeyId
       secretAccessKey := secret
       region := draft.region.getD base.region
       endpoint := draft.endpoint.getD base.endpoint }, rest)

structure Draft where
  language : Option Language := none
  s3 : Option (Option S3Credentials) := none

def shape : Json.Record.Shape Draft where
  name := "Preferences"
  fields := [
    { name := "language"
      read := fun depth draft bs =>
        (readLanguage depth bs).map fun (l, rest) =>
          ({ draft with language := some l }, rest)
      present := (·.language.isSome)
      required := false },
    { name := "s3-credentials"
      read := fun depth draft bs =>
        (Json.Record.optional (readCredentials depth) bs).map
          fun (c, rest) => ({ draft with s3 := some c }, rest)
      present := (·.s3.isSome)
      required := false }]

def decode (bs : Bytes) : Except Fault Preferences :=
  (Json.Reader.finish (Json.Record.record shape {} Json.Reader.depthLimit bs)).map fun draft =>
    ⟨draft.language.getD .zh, draft.s3.getD none⟩

end StorageConsole.Preferences
