import StorageConsole.Call.Params
import StorageConsole.Proofs.Json.Rereading
import StorageConsole.Proofs.Text.Form

/-! Parameters as a server reads them. -/

namespace StorageConsole.Params

open Json (Value)
open Text (Form.decode Form.encode)

lemma query?_eq_none_iff {p : Params} : p.query? = none ↔ p.present = [] := by
  unfold query?
  split
  · rename_i hempty
    exact iff_of_true rfl (List.isEmpty_iff.mp hempty)
  · rename_i hsome
    exact iff_of_false nofun (fun hnil => hsome (List.isEmpty_iff.mpr hnil))

lemma query?_of_ne_nil {p : Params} (h : p.present ≠ []) :
    p.query? = some (Form.encode p.present) :=
  if_neg fun hempty => h (List.isEmpty_iff.mp hempty)

def heard (query : Option String) : List (String × String) := query.elim [] Form.decode

lemma heard_query? (p : Params) : heard p.query? = p.present := by
  by_cases h : p.present = []
  · rw [query?_eq_none_iff.mpr h, h]
    rfl
  · rw [query?_of_ne_nil h]
    exact Text.Form.decode_encode p.present

lemma present_eq_nil_iff {p : Params} : p.present = [] ↔ ∀ entry ∈ p.entries, entry.2 = none := by
  simp [present, List.filterMap_eq_nil_iff]

def told : Value → String
  | .string s => s
  | v => v.text

lemma present_ofJson (members : List (String × Value)) :
    (ofJson (.object members)).present =
      (members.filter (!·.2.isNull)).map fun m => (m.1, told m.2) := by
  have hmember (m : String × Value) :
      (valueOf m.2).map (m.1, ·) = if m.2.isNull then none else some (m.1, told m.2) := by
    obtain ⟨key, v⟩ := m
    cases v <;> rfl
  have hpresent : (ofJson (.object members)).present =
      members.filterMap fun m => (valueOf m.2).map (m.1, ·) := List.filterMap_map
  rw [hpresent]
  simp only [hmember]
  induction members with
  | nil => rfl
  | cons m more ih =>
    rw [List.filterMap_cons, ih List.filterMap_map]
    cases hnull : m.2.isNull <;> simp [hnull]

lemma told_eq_text {v : Value} (h : v.text? = none) : told v = v.text := by
  cases v with
  | string s => cases h
  | _ => rfl

lemma read?_text {v : Value} (hfits : v.Fits Json.Reader.depthLimit) (hordered : v.Ordered) :
    Value.read? (Text.Utf8.encode v.text) = some v := by
  have hbytes : Text.Utf8.encode v.text = v.bytes ++ [] := by
    rw [List.append_nil, Value.text, Text.Utf8.encode, String.toList_ofList, Value.bytes]
  rw [hbytes, Value.read?, Value.read,
    Json.Reader.value_rereads hfits hordered [] Json.Scan.ends_nil]
  rfl

lemma keys_ascending {members : List (String × Value)} (h : members.Pairwise (·.1 < ·.1)) :
    (((members.filter (!·.2.isNull)).map fun m => (m.1, told m.2)).map (·.1)).Pairwise (· < ·) := by
  rw [List.map_map, List.pairwise_map]
  exact h.filter _

/-- A query tells the parameters that are present, in order and whatever is in their texts. For an
object these are the members that are no null, in the order of their keys. -/
theorem query_tells_present :
    (∀ p : Params, (p.query? = none ↔ ∀ entry ∈ p.entries, entry.2 = none) ∧
      ∀ query, p.query? = some query →
        Form.decode query = p.entries.filterMap fun entry => entry.2.map (entry.1, ·)) ∧
    (∀ members, (Value.object members).Ordered →
      heard (ofJson (.object members)).query? =
        (members.filter (!·.2.isNull)).map (fun m => (m.1, told m.2)) ∧
      ((heard (ofJson (.object members)).query?).map (·.1)).Pairwise (· < ·) ∧
      ∀ m ∈ members, m.2.text? = none →
        told m.2 = m.2.text ∧
          (m.2.Fits Json.Reader.depthLimit →
            Value.read? (Text.Utf8.encode (told m.2)) = some m.2)) ∧
    ∀ v : Value, v.members? = none → (ofJson v).entries = [] := by
  refine ⟨fun p => ⟨?_, fun query hquery => ?_⟩, fun members hordered => ?_, fun v hv => ?_⟩
  · rw [query?_eq_none_iff, present_eq_nil_iff]
  · have hheard := heard_query? p
    rw [hquery] at hheard
    exact hheard
  · cases hordered with
    | object hascending hmembers =>
      rw [heard_query?, present_ofJson]
      refine ⟨rfl, keys_ascending hascending, fun m hm htext => ⟨told_eq_text htext, ?_⟩⟩
      intro hfits
      rw [told_eq_text htext]
      exact read?_text hfits (hmembers m hm)
  · rw [ofJson, hv]
    rfl

def search : List (String × Value) :=
  [("after", .null), ("limit", .number (.int 20)), ("name", .string "Zoë & co=50%"),
    ("tags", .array [.bool true, .null]), ("user", .string "")]

theorem search_tells_present : (Value.object search).Ordered ∧
    (ofJson (.object search)).query? =
      some "limit=20&name=Zo%C3%AB+%26+co%3D50%25&tags=%5Btrue%2Cnull%5D&user=" ∧
    heard (ofJson (.object search)).query? =
      [("limit", "20"), ("name", "Zoë & co=50%"), ("tags", "[true,null]"), ("user", "")] := by
  have hordered : (Value.object search).Ordered := by
    have htags : (Value.array [.bool true, .null]).Ordered := .array (by
      simpa using ⟨Value.Ordered.bool true, Value.Ordered.null⟩)
    refine .object (by decide) ?_
    simpa [search] using ⟨Value.Ordered.null, Value.Ordered.number (.int 20),
      Value.Ordered.string "Zoë & co=50%", htags, Value.Ordered.string ""⟩
  refine ⟨hordered, by decide +kernel, ?_⟩
  rw [(query_tells_present.2.1 search hordered).1]
  decide +kernel

def pathPart (path : String) : String := String.ofList (path.toList.takeWhile (· != '?'))

def queryPart (path : String) : String :=
  String.ofList ((path.toList.dropWhile (· != '?')).drop 1)

lemma passes_of_not_mem {cs : List Char} (h : '?' ∉ cs) : ∀ c ∈ cs, (c != '?') = true := by
  intro c hc
  apply bne_iff_ne.mpr
  rintro rfl
  exact h hc

lemma parts_of_append {path : String} {before after : List Char}
    (h : path.toList = before ++ '?' :: after) (hbefore : '?' ∉ before) :
    pathPart path = String.ofList before ∧ queryPart path = String.ofList after := by
  have hpass := passes_of_not_mem hbefore
  rw [pathPart, queryPart, h, List.takeWhile_append_of_pos hpass,
    List.dropWhile_append_of_pos hpass]
  simp

lemma parts_of_not_mem {path : String} (h : '?' ∉ path.toList) :
    pathPart path = path ∧ queryPart path = "" := by
  have hpass := passes_of_not_mem h
  rw [pathPart, queryPart, List.takeWhile_eq_self_iff.mpr hpass,
    List.dropWhile_eq_nil_iff.mpr hpass]
  exact ⟨String.ofList_toList, rfl⟩

lemma appendTo_of_nil {p : Params} (h : p.present = []) (path : String) :
    p.appendTo path = path := by
  rw [appendTo, query?_eq_none_iff.mpr h]

lemma appendTo_of_ne_nil {p : Params} (h : p.present ≠ []) (path : String) :
    (p.appendTo path).toList = path.toList ++ '?' :: Text.Form.encodeChars p.present := by
  rw [appendTo, query?_of_ne_nil h]
  simp [Text.Form.encode]

/-- Parameters that are appended leave a path where it was, and its own query is still heard before
them just if it has no `?` or they are all absent. -/
theorem appended_query_heard_iff (p : Params) (path : String) :
    pathPart (p.appendTo path) = pathPart path ∧
      (Form.decode (queryPart (p.appendTo path)) =
          Form.decode (queryPart path) ++ p.present ↔
        ('?' ∈ path.toList → p.present = [])) := by
  by_cases hnil : p.present = []
  · rw [appendTo_of_nil hnil, hnil, List.append_nil]
    exact ⟨rfl, iff_of_true rfl fun _ => rfl⟩
  have happended := appendTo_of_ne_nil hnil path
  by_cases hown : '?' ∈ path.toList
  · obtain ⟨before, after, hpath, hbefore⟩ := List.eq_append_cons_of_mem hown
    obtain ⟨hstays, hown'⟩ := parts_of_append hpath hbefore
    rw [hpath, List.append_assoc, List.cons_append] at happended
    obtain ⟨hfirst, hquery⟩ := parts_of_append happended hbefore
    refine ⟨by rw [hfirst, hstays], iff_of_false ?_ fun h => hnil (h hown)⟩
    rw [hquery, hown']
    exact Text.Form.decode_question_ne after hnil
  · obtain ⟨hstays, hown'⟩ := parts_of_not_mem hown
    obtain ⟨hfirst, hquery⟩ := parts_of_append happended hown
    refine ⟨by rw [hfirst, hstays, String.ofList_toList], iff_of_true ?_ fun h => absurd h hown⟩
    have hempty : Form.decode "" = [] := rfl
    have hpresent : Form.decode (String.ofList (Text.Form.encodeChars p.present)) = p.present :=
      Text.Form.decode_encode p.present
    rw [hquery, hown', hempty, hpresent, List.nil_append]

theorem prefix_runs_into_query :
    let p : Params := ({} : Params).set "prefix" "a"
    p.appendTo "/objects?limit=1" = "/objects?limit=1?prefix=a" ∧
      Form.decode (queryPart "/objects?limit=1") ++ p.present = [("limit", "1"), ("prefix", "a")] ∧
      Form.decode (queryPart (p.appendTo "/objects?limit=1")) = [("limit", "1?prefix=a")] := by
  decide +kernel

end StorageConsole.Params
