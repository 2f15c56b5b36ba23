import StorageConsole.Http.Transport
import StorageConsole.Proofs.Url.Resolving

/-! Which requests stay beneath the URL that their paths are resolved against. -/

namespace StorageConsole

namespace Url

structure Beneath (base u : Url) : Prop where
  scheme : u.scheme = base.scheme
  host : u.authority.map (·.host) = base.authority.map (·.host)
  port : u.authority.map (·.port) = base.authority.map (·.port)
  path : base.path.text <+: u.path.text

def Trail.EndsBelow (t : Trail) (start dirs : List (List Char)) : Prop :=
  ∃ more, more ≠ [] ∧ t.ends start = dirs ++ more

/-- What a reference has to be like to stay beneath its base: if it names a host, then the base's,
and however often its path goes up, it comes down again in the base's directory. -/
def Contained (base : Url) (reference : List Char) : Prop :=
  match start base.scheme reference with
  | .elsewhere => False
  | .host scheme cs => scheme = base.scheme ∧ ∃ a rest, readAuthority scheme cs = .ok (a, rest) ∧
      base.authority.map (·.host) = some a.host ∧ base.authority.map (·.port) = some a.port ∧
      (trail (dropSlash .web rest)).EndsBelow [] base.dirs
  | .root cs => (trail cs).EndsBelow [] base.dirs
  | .here cs => (trail cs).EndsBelow base.dirs base.dirs

variable {base u : Url}

lemma path_prefix_iff (hbase : base.IsApiBase) {start : List (List Char)} (hstart : SlashFree start)
    {cs : List Char} (hpath : u.path = .rooted ((trail cs).ends start)) :
    base.path.text <+: u.path.text ↔ (trail cs).EndsBelow start base.dirs := by
  obtain ⟨hbasePath, hdirs⟩ := hbase.path_eq
  rw [hbasePath, hpath]
  exact text_prefix_iff hdirs (slashFree_ends hstart cs)

lemma beneath_iff_of_reaches (hbase : base.IsApiBase) {reference : List Char}
    (h : (start base.scheme reference).Reaches base u) :
    base.Beneath u ↔ base.Contained reference := by
  obtain ⟨hbasePath, hdirs⟩ := hbase.path_eq
  unfold Contained
  cases hstart : start base.scheme reference with
  | elsewhere =>
    rw [hstart] at h
    refine ⟨fun hbeneath => h ?_, False.elim⟩
    rw [kind, hbeneath.scheme]
    exact hbase.kind_eq
  | host scheme cs =>
    rw [hstart] at h
    obtain ⟨rfl, a, rest, hread, ha, hpath⟩ := h
    have hprefix := path_prefix_iff hbase slashFree_nil hpath
    constructor
    · intro hbeneath
      refine ⟨hbeneath.scheme, a, rest, hread, ?_, ?_, hprefix.mp hbeneath.path⟩
      · rw [← hbeneath.host, ha, Option.map_some]
      · rw [← hbeneath.port, ha, Option.map_some]
    · rintro ⟨hscheme, named, after, hnamed, hhost, hport, hbelow⟩
      obtain ⟨rfl, rfl⟩ := Prod.mk.inj (Except.ok.inj (hread.symm.trans hnamed))
      exact ⟨hscheme, by rw [ha, hhost, Option.map_some], by rw [ha, hport, Option.map_some],
        hprefix.mpr hbelow⟩
  | root cs =>
    rw [hstart] at h
    obtain ⟨hscheme, ha, hpath⟩ := h
    have hprefix := path_prefix_iff hbase slashFree_nil hpath
    refine ⟨fun hbeneath => hprefix.mp hbeneath.path, fun hbelow => ?_⟩
    exact ⟨hscheme, by rw [ha], by rw [ha], hprefix.mpr hbelow⟩
  | here cs =>
    rw [hstart] at h
    obtain ⟨hscheme, ha, hpath⟩ := h
    have hprefix : base.path.text <+: u.path.text ↔ (trail cs).EndsBelow base.dirs base.dirs := by
      rcases hpath with hpath | ⟨hempty, hpath⟩
      · exact path_prefix_iff hbase hdirs hpath
      · have htrail : trail cs = ⟨0, [[]]⟩ := by
          rw [trail, hempty]
          rfl
        rw [hpath, htrail]
        exact iff_of_true (List.prefix_refl _) ⟨[[]], List.cons_ne_nil _ _, rfl⟩
    refine ⟨fun hbeneath => hprefix.mp hbeneath.path, fun hbelow => ?_⟩
    exact ⟨hscheme, by rw [ha], by rw [ha], hprefix.mpr hbelow⟩

end Url

namespace Http.Transport

open Url (Beneath Contained IsApiBase)

/-- A request stays beneath the API's URL exactly if its path, read as a reference, is contained
there. -/
theorem beneath_iff_contained (t : Transport) (path : String) (u : Url)
    (hbase : t.baseUrl.IsApiBase) (h : t.resolve path = .ok u) :
    t.baseUrl.Beneath u ↔ t.baseUrl.Contained (path.toList.dropWhile (· == '/')) := by
  obtain ⟨hpath, -⟩ := hbase.path_eq
  exact Url.beneath_iff_of_reaches hbase (Url.resolve_reaches hbase.kind_eq hpath h)

def consoleApi : Transport :=
  { baseUrl := ⟨"http".toList, some ⟨[], [], .name "console.test".toList, none⟩,
      .rooted ["api".toList, []], none, none⟩ }

lemma isApiBase_consoleApi : consoleApi.baseUrl.IsApiBase where
  scheme := .inl rfl
  proper _ := ⟨rfl, ["api".toList, []], by decide, by unfold Url.SlashFree; decide, rfl⟩
  slash := by decide
  query := rfl
  fragment := rfl

theorem requests_leave_api :
    (∃ u, consoleApi.resolve "/../admin" = .ok u ∧ u.text = "http://console.test/admin" ∧
      ¬consoleApi.baseUrl.Beneath u) ∧
    ∃ u, consoleApi.resolve "/https://evil.test/x" = .ok u ∧ u.text = "https://evil.test/x" ∧
      ¬consoleApi.baseUrl.Beneath u := by
  constructor
  · refine ⟨{ consoleApi.baseUrl with path := .rooted ["admin".toList] }, rfl, by decide, ?_⟩
    intro hbeneath
    exact absurd hbeneath.path (by decide)
  · refine ⟨⟨"https".toList, some ⟨[], [], .name "evil.test".toList, none⟩, .rooted ["x".toList],
      none, none⟩, rfl, by decide, ?_⟩
    intro hbeneath
    exact absurd hbeneath.scheme (by decide)

theorem return_beneath_api : consoleApi.baseUrl.IsApiBase ∧
    ∃ u, consoleApi.resolve "/../api/stats?of=all" = .ok u ∧
      u.text = "http://console.test/api/stats?of=all" ∧ consoleApi.baseUrl.Beneath u := by
  have hresolve : consoleApi.resolve "/../api/stats?of=all" =
      .ok { consoleApi.baseUrl with
        path := .rooted ["api".toList, "stats".toList]
        query := some "of=all".toList } := rfl
  have hcontained : consoleApi.baseUrl.Contained
      ("/../api/stats?of=all".toList.dropWhile (· == '/')) :=
    ⟨["stats".toList], by decide, rfl⟩
  have hbeneath := beneath_iff_contained consoleApi _ _ isApiBase_consoleApi hresolve
  exact ⟨isApiBase_consoleApi, _, hresolve, by decide, hbeneath.mpr hcontained⟩

end Http.Transport
end StorageConsole
