import StorageConsole.Preferences.Record
import StorageConsole.Proofs.Json.Lines

namespace StorageConsole.Preferences

open Json (Value)
open Json.Record (GathersLines)
open Json.Value (linedBytes linedMember)

lemma string_lined (level : Nat) (s : String) (rest : Bytes) :
    Json.Record.string (0x20 :: (linedBytes level (.string s) ++ rest)) = .ok (s, rest) := by
  rw [Value.linedBytes_string]
  exact Json.Scan.string_quoted s rest

lemma optional_string_lined (level : Nat) (s : String) (rest : Bytes) :
    Json.Record.optional Json.Record.string (0x20 :: (linedBytes level (.string s) ++ rest)) =
      .ok (some s, rest) := by
  have hfront : Json.Scan.skipSpace (0x20 :: (linedBytes level (.string s) ++ rest)) =
      0x22 :: (Json.Scan.quoted s ++ rest) := by
    rw [Value.linedBytes_string]
    rfl
  rw [Json.Record.optional, hfront]
  dsimp only
  rw [if_neg (by decide), string_lined]
  rfl

lemma text_line {σ : Type} {kind : Json.Record.Shape σ} {depth level : Nat} {state : σ}
    {field : Json.Record.Field σ} {key : String} (s : String) (next : String → σ)
    (hfield : kind.fields.find? (·.name == key) = some field) (hnew : field.present state = false)
    (hread : ∀ bs, field.read depth state bs =
      (Json.Record.string bs).map fun (s, rest) => (next s, rest)) (rest : Bytes) :
    Json.Record.member kind depth state (linedMember level (key, .string s) rest) =
      .ok (next s, rest) := by
  apply Json.Record.member_line hfield hnew
  rw [hread, string_lined]
  rfl

lemma gathers_credentials (c : S3Credentials) (depth level : Nat) :
    GathersLines (Json.Record.member credentialsShape depth) level {}
      ([("accessKeyId", .string c.accessKeyId), ("secretAccessKey", .string c.secretAccessKey),
        ("region", .string c.region)] ++
        (c.endpoint.map fun e => ("endpoint", Value.string e)).toList)
      ⟨some c.accessKeyId, some c.secretAccessKey, some c.region, c.endpoint.map some⟩ := by
  obtain ⟨key, secret, region, endpoint⟩ := c
  have hkey (rest : Bytes) : Json.Record.member credentialsShape depth {}
      (linedMember level ("accessKeyId", .string key) rest) =
        .ok (⟨some key, none, none, none⟩, rest) :=
    text_line key (fun s => (⟨some s, none, none, none⟩ : CredentialsDraft)) rfl rfl
      (fun _ => rfl) rest
  have hsecret (rest : Bytes) :
      Json.Record.member credentialsShape depth ⟨some key, none, none, none⟩
        (linedMember level ("secretAccessKey", .string secret) rest) =
          .ok (⟨some key, some secret, none, none⟩, rest) :=
    text_line secret (fun s => (⟨some key, some s, none, none⟩ : CredentialsDraft)) rfl rfl
      (fun _ => rfl) rest
  have hregion (rest : Bytes) :
      Json.Record.member credentialsShape depth ⟨some key, some secret, none, none⟩
        (linedMember level ("region", .string region) rest) =
          .ok (⟨some key, some secret, some region, none⟩, rest) :=
    text_line region (fun s => (⟨some key, some secret, some s, none⟩ : CredentialsDraft)) rfl rfl
      (fun _ => rfl) rest
  cases endpoint with
  | none => exact .cons hkey (.cons hsecret (.cons hregion (.nil _)))
  | some e =>
    have hendpoint (rest : Bytes) :
        Json.Record.member credentialsShape depth ⟨some key, some secret, some region, none⟩
          (linedMember level ("endpoint", .string e) rest) =
            .ok (⟨some key, some secret, some region, some (some e)⟩, rest) := by
      apply Json.Record.member_line rfl rfl
      simp [optional_string_lined, Except.map]
    exact .cons hkey (.cons hsecret (.cons hregion (.cons hendpoint (.nil _))))

lemma readCredentials_lined (c : S3Credentials) (depth level : Nat) {bs rest : Bytes}
    (hfront : Json.Scan.skipSpace bs = linedBytes level (credentialsValue c) ++ rest) :
    readCredentials (depth + 1) bs = .ok (c, rest) := by
  have hrecord := Json.Record.record_lines hfront (gathers_credentials c depth (level + 1)) rfl
  rw [readCredentials, hrecord]
  obtain ⟨key, secret, region, endpoint⟩ := c
  cases endpoint <;> rfl

lemma readLanguage_lined (l : Language) (depth level : Nat) (rest : Bytes) :
    readLanguage depth (0x20 :: (linedBytes level (.string l.text) ++ rest)) = .ok (l, rest) := by
  have hname := Json.Scan.string_quoted l.text rest
  have hfront : Json.Scan.skipSpace (0x20 :: (linedBytes level (.string l.text) ++ rest)) =
      0x22 :: (Json.Scan.quoted l.text ++ rest) := by
    rw [Value.linedBytes_string]
    rfl
  rw [readLanguage, hfront]
  dsimp only
  rw [if_pos rfl, readLanguageName, hfront]
  dsimp only
  rw [if_pos rfl, hname]
  cases l <;> rfl

lemma optional_credentials_lined (c : S3Credentials) (depth level : Nat) (rest : Bytes) :
    Json.Record.optional (readCredentials (depth + 1))
      (0x20 :: (linedBytes level (credentialsValue c) ++ rest)) = .ok (some c, rest) := by
  obtain ⟨more, hmore⟩ : ∃ more, linedBytes level (credentialsValue c) ++ rest = 0x7B :: more :=
    ⟨_, Value.linedBytes_object level _ _ rest⟩
  have hfront : Json.Scan.skipSpace (0x20 :: (linedBytes level (credentialsValue c) ++ rest)) =
      0x7B :: more := by
    rw [hmore]
    rfl
  have hread := readCredentials_lined c depth level (hfront.trans hmore.symm)
  rw [Json.Record.optional, hfront]
  dsimp only
  rw [if_neg (by decide), hread]
  rfl

lemma gathers_preferences (p : Preferences) (depth : Nat) :
    GathersLines (Json.Record.member shape (depth + 1)) 1 {}
      ([("language", .string p.language.text)]
        ++ (p.s3.map fun c => ("s3-credentials", credentialsValue c)).toList)
      ⟨some p.language, p.s3.map some⟩ := by
  obtain ⟨language, s3⟩ := p
  have hlanguage (rest : Bytes) : Json.Record.member shape (depth + 1) {}
      (linedMember 1 ("language", .string language.text) rest) =
        .ok (⟨some language, none⟩, rest) := by
    apply Json.Record.member_line rfl rfl
    simp [readLanguage_lined, Except.map]
  cases s3 with
  | none => exact .cons hlanguage (.nil _)
  | some c =>
    have hcredentials (rest : Bytes) : Json.Record.member shape (depth + 1) ⟨some language, none⟩
        (linedMember 1 ("s3-credentials", credentialsValue c) rest) =
          .ok (⟨some language, some (some c)⟩, rest) := by
      apply Json.Record.member_line rfl rfl
      simp [optional_credentials_lined, Except.map]
    exact .cons hlanguage (.cons hcredentials (.nil _))

lemma decode_encode (p : Preferences) : decode p.encode = .ok p := by
  have hfront : Json.Scan.skipSpace p.encode = linedBytes 0 p.value ++ [] := by
    have hbytes : p.encode = linedBytes 0 p.value ++ [] := (List.append_nil _).symm
    have hbrace := Value.linedBytes_object 0 ("language", .string p.language.text)
      (p.s3.map fun c => ("s3-credentials", credentialsValue c)).toList []
    rw [hbytes]
    exact hbrace ▸ Json.Reader.skipSpace_of_front rfl _
  have hrecord := Json.Record.record_lines hfront (gathers_preferences p 125) rfl
  have hread : Json.Record.record shape {} Json.Reader.depthLimit p.encode =
      .ok (⟨some p.language, p.s3.map some⟩, []) := hrecord
  rw [decode, hread]
  obtain ⟨language, s3⟩ := p
  cases s3 <;> rfl

end StorageConsole.Preferences
