import StorageConsole.Proofs.Json.Cutting
import StorageConsole.Proofs.Preferences.Rereading

namespace StorageConsole.Preferences

open Json (Read Value)
open Json.Record (BreaksLines ReadsLine)
open Json.Value (linedBytes)

variable {level : Nat}

lemma quoted_cut {α : Type} {read : Bytes → Read α} (s : String)
    (hnothing : read [] = .error .truncated) (hblank : read [0x20] = .error .truncated)
    (hquote : ∀ bs, Json.Scan.string bs = .error .truncated →
      read (0x20 :: 0x22 :: bs) = .error .truncated) :
    Cuts (fun bs => read bs = .error .truncated) (0x20 :: linedBytes level (.string s)) := by
  rw [Value.linedBytes_string]
  exact ⟨hnothing, hblank, (Json.Scan.string_cut s).imp hquote⟩

lemma string_reads (s : String) : ReadsLine Json.Record.string (.string s) level s :=
  ⟨string_lined level s, quoted_cut s rfl rfl fun _ => id⟩

lemma optional_string_reads (s : String) :
    ReadsLine (Json.Record.optional Json.Record.string) (.string s) level (some s) where
  whole := optional_string_lined level s
  cut := quoted_cut s rfl rfl fun bs hbs => by
    have hstring : Json.Record.optional Json.Record.string (0x20 :: 0x22 :: bs) =
        (Json.Scan.string bs).map fun text => (some text.1, text.2) := rfl
    rw [hstring, hbs]
    rfl

lemma language_reads (l : Language) (depth : Nat) :
    ReadsLine (readLanguage depth) (.string l.text) level l where
  whole := readLanguage_lined l depth level
  cut := quoted_cut l.text rfl rfl fun bs hbs => by
    have hskip : Json.Scan.skipSpace (0x20 :: 0x22 :: bs) = 0x22 :: bs := rfl
    simp [readLanguage, readLanguageName, hskip, hbs]

lemma breaks_credentials (c : S3Credentials) (depth level : Nat) :
    BreaksLines credentialsShape depth level {}
      ([("accessKeyId", .string c.accessKeyId), ("secretAccessKey", .string c.secretAccessKey),
        ("region", .string c.region)] ++
        (c.endpoint.map fun e => ("endpoint", Value.string e)).toList) := by
  obtain ⟨key, secret, region, endpoint⟩ := c
  refine .cons rfl rfl
      ((string_reads key).map (fun s => ⟨some s, none, none, none⟩) fun _ => rfl) <|
    .cons rfl rfl
      ((string_reads secret).map (fun s => ⟨some key, some s, none, none⟩) fun _ => rfl) <|
    .cons rfl rfl
      ((string_reads region).map (fun s => ⟨some key, some secret, some s, none⟩) fun _ => rfl) ?_
  cases endpoint with
  | none => exact .nil _
  | some e =>
    exact .cons rfl rfl ((optional_string_reads e).map
      (fun e => ⟨some key, some secret, some region, some e⟩) fun _ => rfl) (.nil _)

lemma credentials_reads (c : S3Credentials) (depth : Nat) :
    ReadsLine (Json.Record.optional (readCredentials (depth + 1))) (credentialsValue c) level
      (some c) where
  whole := optional_credentials_lined c depth level
  cut := by
    have hrecord : Cuts (fun bs => Json.Record.record credentialsShape {} (depth + 1) bs =
        .error .truncated) (linedBytes level (credentialsValue c)) :=
      Json.Record.record_cut (breaks_credentials c depth (level + 1))
    obtain ⟨text, htext⟩ : ∃ text, linedBytes level (credentialsValue c) = 0x7B :: text :=
      ⟨_, (List.append_nil _).symm.trans (Value.linedBytes_object level _ _ [])⟩
    rw [htext] at hrecord ⊢
    refine ⟨rfl, rfl, hrecord.2.imp fun bs hbs => ?_⟩
    have hoptional : Json.Record.optional (readCredentials (depth + 1)) (0x20 :: 0x7B :: bs) =
        (readCredentials (depth + 1) (0x7B :: bs)).map fun read => (some read.1, read.2) := rfl
    have hcredentials : readCredentials (depth + 1) (0x7B :: bs) = .error .truncated := by
      rw [readCredentials, hbs]
      rfl
    rw [hcredentials] at hoptional
    exact hoptional

lemma breaks_preferences (p : Preferences) (depth : Nat) :
    BreaksLines shape (depth + 1) 1 {}
      ([("language", .string p.language.text)]
        ++ (p.s3.map fun c => ("s3-credentials", credentialsValue c)).toList) := by
  obtain ⟨language, s3⟩ := p
  refine .cons rfl rfl
    ((language_reads language (depth + 1)).map (fun l => ⟨some l, none⟩) fun _ => rfl) ?_
  cases s3 with
  | none => exact .nil _
  | some c =>
    exact .cons rfl rfl
      ((credentials_reads c depth).map (fun c => ⟨some language, some c⟩) fun _ => rfl) (.nil _)

lemma decode_cut (p : Preferences) {n : Nat} (h : n < p.encode.length) :
    decode (p.encode.take n) = .error .truncated := by
  have hrecord : Cuts (fun bs => Json.Record.record shape {} Json.Reader.depthLimit bs =
      .error .truncated) (linedBytes 0 p.value) :=
    Json.Record.record_cut (breaks_preferences p 125)
  have hread : Json.Record.record shape {} Json.Reader.depthLimit (p.encode.take n) =
      .error .truncated := hrecord.take h
  rw [decode, hread]
  rfl

end StorageConsole.Preferences
