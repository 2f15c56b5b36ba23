import StorageConsole.Call.Catalogue
import StorageConsole.Call.Params
import StorageConsole.Proofs.Call.Queries
import StorageConsole.Proofs.Http.Beneath
import StorageConsole.Proofs.Url.Plain

namespace StorageConsole.Http.Transport

open Url (IsSegment IsPlain spell)

def IsRoute (path : String) : Prop :=
  ∃ segments, segments ≠ [] ∧ (∀ segment ∈ segments, IsSegment segment) ∧
    path.toList = segments.flatMap ('/' :: ·)

lemma isRoute_of_pieces {path : String} (hslash : path.toList.head? = some '/')
    (h : ∀ piece ∈ Text.pieces (· == '/') path.toList.tail, IsSegment piece) : IsRoute path := by
  refine ⟨_, Text.pieces_ne_nil _ _, h, ?_⟩
  rw [Text.flatMap_cons_pieces]
  exact (List.cons_head?_tail hslash).symm

lemma isRoute_of_mem_endpoints : ∀ e ∈ Catalogue.endpoints, IsRoute e.path := by
  have hpieces : ∀ e ∈ Catalogue.endpoints, e.path.toList.head? = some '/' ∧
      ∀ piece ∈ Text.pieces (· == '/') e.path.toList.tail, IsSegment piece := by
    decide +kernel
  intro e he
  obtain ⟨hslash, hpieces⟩ := hpieces e he
  exact isRoute_of_pieces hslash hpieces

lemma writes_of_mem_query (p : Params) :
    ∀ cs ∈ p.query?.map String.toList, ∀ c ∈ cs, Text.Form.writes c = true := by
  intro cs hcs c hc
  obtain ⟨query, hquery, rfl⟩ := Option.map_eq_some_iff.mp hcs
  have hpresent : p.present ≠ [] := by
    intro hnil
    cases (Params.query?_eq_none_iff.mpr hnil).symm.trans hquery
  cases (Params.query?_of_ne_nil hpresent).symm.trans hquery
  rw [Text.Form.encode, String.toList_ofList] at hc
  exact Text.Form.writes_of_mem_encodeChars hc

def received (u : Url) : List (String × String) :=
  u.query.elim [] fun query => Text.Form.decode (String.ofList query)

lemma received_query {p : Params} {u : Url} (h : u.query = p.query?.map String.toList) :
    received u = p.present := by
  rw [received, h, ← p.heard_query?, Params.heard]
  cases p.query? <;> simp

lemma toList_appendTo (p : Params) (path : String) :
    (p.appendTo path).toList = path.toList ++ Url.part '?' (p.query?.map String.toList) := by
  unfold Params.appendTo
  split <;> rename_i hquery <;> simp [hquery, Url.part]

lemma resolve_route {t : Transport} (hbase : t.baseUrl.IsApiBase) {segments : List (List Char)}
    {query : Option (List Char)} (h : IsPlain segments query) {reference : String}
    (hreference : reference.toList = segments.flatMap ('/' :: ·) ++ Url.part '?' query) :
    t.resolve reference = .ok { t.baseUrl with
      path := .rooted (t.baseUrl.dirs ++ segments), query := query } := by
  have hdrop : reference.toList.dropWhile (· == '/') = spell segments query := by
    obtain ⟨c, rest, hjoin, hc⟩ := h.join_eq_cons
    have hslash : c ≠ '/' := by
      rintro rfl
      cases hc
    rw [hreference, Text.flatMap_cons_eq_join '/' h.ne_nil, spell, hjoin]
    simp [hslash]
  rw [resolve, hdrop]
  exact h.resolve_spell hbase

/-- Parameters never change a route: a call is resolved to the base's text, the route and the query,
from which a server reads the parameters that are present. -/
theorem parameters_keep_route :
    (∀ e ∈ Catalogue.endpoints, IsRoute e.path) ∧
    ∀ (t : Transport) (path : String) (p : Params), t.baseUrl.IsApiBase → IsRoute path →
      ∃ u, t.resolve (p.appendTo path) = .ok u ∧
        u.text = t.baseUrl.text ++ String.ofList (path.toList.drop 1) ++
          p.query?.elim "" ("?" ++ ·) ∧
        t.resolve path = .ok { u with query := none } ∧ received u = p.present := by
  refine ⟨isRoute_of_mem_endpoints, ?_⟩
  rintro t path p hbase ⟨segments, hne, hsegments, hpath⟩
  have hcall : IsPlain segments (p.query?.map String.toList) :=
    ⟨hne, hsegments, writes_of_mem_query p⟩
  have hroute : IsPlain segments none := ⟨hne, hsegments, nofun⟩
  refine ⟨_, resolve_route hbase hcall ?_, ?_, resolve_route hbase hroute ?_, received_query rfl⟩
  · rw [toList_appendTo, hpath]
  · rw [Url.text, hcall.chars_spell hbase, hpath, Text.flatMap_cons_eq_join '/' hne, spell]
    cases p.query? <;> simp [Url.text, Url.part, String.ofList_append, String.append_assoc]
  · rw [hpath]
    exact (List.append_nil _).symm

def search : Params := ⟨[("pre fix", some "../é&#?"), ("marker", none), ("", some "")]⟩

theorem search_keeps_route :
    consoleApi.baseUrl.IsApiBase ∧ ∃ u,
      consoleApi.resolve (search.appendTo "/bucket/list") = .ok u ∧
      u.text = "http://console.test/api/bucket/list?pre+fix=..%2F%C3%A9%26%23%3F&=" ∧
      received u = [("pre fix", "../é&#?"), ("", "")] := by
  have hroute : IsRoute "/bucket/list" :=
    parameters_keep_route.1 Catalogue.listBuckets (by decide)
  obtain ⟨u, hresolve, htext, -, hreceived⟩ :=
    parameters_keep_route.2 consoleApi "/bucket/list" search isApiBase_consoleApi hroute
  exact ⟨isApiBase_consoleApi, u, hresolve, htext.trans (by decide +kernel), hreceived⟩

end StorageConsole.Http.Transport
