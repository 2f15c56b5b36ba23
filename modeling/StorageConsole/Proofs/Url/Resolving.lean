import Mathlib.Data.List.Basic
import Mathlib.Tactic.SplitIfs
import StorageConsole.Proofs.Url.Walking

/-! What a reference reaches: where it sets out from, and that its path is followed from there. -/

namespace StorageConsole.Url

inductive Start where
  -- From a scheme that no web pages are fetched by.
  | elsewhere
  -- From a host that it names.
  | host (scheme cs : List Char)
  -- From the root of the host that it is relative to.
  | root (cs : List Char)
  -- From the directory that it is relative to.
  | here (cs : List Char)
  deriving DecidableEq, Repr

def Start.ofRelative (scheme cs : List Char) : Start :=
  match cs with
  | [] => .here []
  | c :: rest =>
    if isSlash .web c then
      match rest with
      | [] => .root []
      | d :: after =>
        if isSlash .web d then
          .host scheme (if c = '/' ∧ d = '/' then after else after.dropWhile (isSlash .web))
        else .root rest
    else .here cs

def start (scheme : List Char) (reference : List Char) : Start :=
  let text := trimEdges reference
  match scheme? (solid text) with
  | none => .ofRelative scheme (solid text)
  | some named =>
    let cs := solid ((text.dropWhile (· != ':')).drop 1)
    if Kind.ofScheme named = .web then
      if (cs.takeWhile (isSlash .web)).length < 2 ∧ scheme = named then .ofRelative scheme cs
      else .host named (cs.dropWhile (isSlash .web))
    else .elsewhere

def dirs (u : Url) : List (List Char) := (u.path.segments?.getD []).dropLast

def Start.Reaches (base u : Url) : Start → Prop
  | .elsewhere => u.kind ≠ .web
  | .host scheme cs => u.scheme = scheme ∧ ∃ a rest, readAuthority scheme cs = .ok (a, rest) ∧
      u.authority = some a ∧ u.path = .rooted ((trail (dropSlash .web rest)).ends [])
  | .root cs => u.scheme = base.scheme ∧ u.authority = base.authority ∧
      u.path = .rooted ((trail cs).ends [])
  | .here cs => u.scheme = base.scheme ∧ u.authority = base.authority ∧
      (u.path = .rooted ((trail cs).ends base.dirs) ∨
        cs.takeWhile (!endsPath ·) = [] ∧ u.path = base.path)

variable {scheme : List Char} {base u : Url}

lemma withPath_web (hkind : Kind.ofScheme scheme = .web) (a : Option Authority)
    (above : List (List Char)) (cs : List Char) :
    (withPath scheme a above cs).path = .rooted ((trail cs).ends above) := by
  simp only [withPath, hkind, tidy]
  rw [if_neg (by simp), walk_web]

lemma withAuthority_reaches (hkind : Kind.ofScheme scheme = .web) {cs : List Char}
    (h : withAuthority scheme cs = .ok u) : (Start.host scheme cs).Reaches base u := by
  unfold withAuthority at h
  simp only [hkind, if_false, false_and, reduceCtorEq] at h
  split at h
  · cases h
  · rename_i a hread
    cases h
    exact ⟨rfl, a, [], hread, rfl, withPath_web hkind _ [] []⟩
  · rename_i a c rest hread
    cases h
    exact ⟨rfl, a, c :: rest, hread, rfl, withPath_web hkind _ [] _⟩

lemma isSlash_web : isSlash .web = fun c => c == '/' || c == '\\' := by
  funext c
  exact congrArg (c == '/' || ·) (Bool.and_true _)

lemma relative_reaches (hkind : base.kind = .web) {cs : List Char} (h : relative base cs = .ok u) :
    (Start.ofRelative base.scheme cs).Reaches base u := by
  have hpath (above : List (List Char)) (cs : List Char) :=
    withPath_web hkind base.authority above cs
  have hslash (c : Char) : isSlash .web c = true ↔ c = '/' ∨ c = '\\' := by
    simp [isSlash_web]
  unfold relative at h
  unfold Start.ofRelative
  split at h
  · cases h
    exact ⟨rfl, rfl, .inr ⟨rfl, rfl⟩⟩
  · cases h
    exact ⟨rfl, rfl, .inr ⟨rfl, rfl⟩⟩
  · cases h
    exact ⟨rfl, rfl, .inr ⟨rfl, rfl⟩⟩
  · rename_i c rest hfragment hquery
    simp only [hslash]
    split_ifs at h ⊢ with hc
    · cases rest with
      | nil =>
        cases h
        exact ⟨rfl, rfl, hpath [] []⟩
      | cons d after =>
        dsimp only at h ⊢
        split_ifs at h ⊢ with hd hcd
        · exact withAuthority_reaches hkind h
        · rw [isSlash_web]
          exact withAuthority_reaches hkind h
        · cases h
          exact ⟨rfl, rfl, hpath [] _⟩
    · cases h
      exact ⟨rfl, rfl, .inl (hpath base.dirs _)⟩

lemma absolute_reaches (hkind : base.kind = .web) {named text : List Char}
    (hnamed : Kind.ofScheme named = .web) (h : absolute (some base) named text = .ok u) :
    (if ((solid text).takeWhile (isSlash .web)).length < 2 ∧ base.scheme = named then
      Start.ofRelative base.scheme (solid text)
    else .host named ((solid text).dropWhile (isSlash .web))).Reaches base u := by
  simp only [absolute, hnamed] at h
  split_ifs at h ⊢
  · exact relative_reaches hkind h
  · exact withAuthority_reaches hnamed h

lemma scheme_withAuthority {cs : List Char} (h : withAuthority scheme cs = .ok u) :
    u.scheme = scheme := by
  unfold withAuthority at h
  dsimp only at h
  split at h
  · cases h
  · split_ifs at h <;> cases h <;> rfl
  · split_ifs at h <;> cases h <;> rfl

lemma kind_withPath {scheme : List Char} {a : Option Authority} {above : List (List Char)}
    {cs : List Char} : (withPath scheme a above cs).kind = Kind.ofScheme scheme := rfl

lemma kind_fileWithHost {cs : List Char} (h : fileWithHost cs = .ok u) : u.kind = .file := by
  unfold fileWithHost at h
  dsimp only [bind, Except.bind] at h
  split at h
  · cases h
    rfl
  · split at h
    · split at h <;> cases h <;> rfl
    · split at h
      · cases h
      · split at h <;> cases h <;> rfl

lemma kind_fileFromRoot (base : Option Url) (cs : List Char) :
    (fileFromRoot base cs).kind = .file := by
  unfold fileFromRoot
  dsimp only
  split
  · rfl
  · split
    · rfl
    · split
      · split <;> rfl
      · rfl

lemma kind_fileReference {base : Option Url} (hbase : ∀ b ∈ base, b.kind = .file) {cs : List Char}
    (h : fileReference base cs = .ok u) : u.kind = .file := by
  unfold fileReference at h
  dsimp only at h
  split at h
  · split at h
    · exact kind_fileWithHost h
    · cases h
      exact kind_fileFromRoot base _
  · split at h
    · cases h
      exact kind_fileFromRoot none _
    · rename_i b
      have hb := hbase b rfl
      split at h
      · cases h
        exact hb
      · cases h
        exact hb
      · cases h
        exact hb
      · split at h <;> cases h
        · exact kind_fileFromRoot none _
        · rfl

lemma absolute_elsewhere {base : Option Url} {named text : List Char}
    (hnamed : Kind.ofScheme named ≠ .web) (h : absolute base named text = .ok u) :
    u.kind ≠ .web := by
  unfold absolute at h
  cases hkind : Kind.ofScheme named with
  | web => exact absurd hkind hnamed
  | file =>
    simp only [hkind] at h
    have hfile : u.kind = .file := by
      apply kind_fileReference _ h
      intro b hb
      simpa using (Option.mem_filter_iff.mp hb).2
    rw [hfile]
    decide
  | other =>
    simp only [hkind] at h
    split at h
    · rw [kind, scheme_withAuthority h, hkind]
      decide
    · cases h
      rw [kind_withPath, hkind]
      decide
    · cases h
      rw [kind, hkind]
      decide

lemma resolve_reaches (hkind : base.kind = .web) {segments : List (List Char)}
    (hpath : base.path = .rooted segments) {reference : List Char}
    (h : resolve (some base) reference = .ok u) : (start base.scheme reference).Reaches base u := by
  unfold resolve at h
  unfold start
  dsimp only at h ⊢
  split at h
  · rename_i named hnamed
    simp only [hnamed]
    split_ifs with hweb hsame
    · have := absolute_reaches hkind hweb h
      rwa [if_pos hsame] at this
    · have := absolute_reaches hkind hweb h
      rwa [if_neg hsame] at this
    · exact absolute_elsewhere hweb h
  · rename_i hnone
    simp only [hnone]
    split at h
    · rename_i hfragment
      apply relative_reaches hkind
      obtain ⟨rest, hrest⟩ := List.head?_eq_some_iff.mp hfragment
      rw [← h, hrest]
      rfl
    · rw [hpath, hkind] at h
      exact relative_reaches hkind h

def IsProper (u : Url) : Prop :=
  u.kind = .web → u.authority.isSome = true ∧
    ∃ segments, segments ≠ [] ∧ SlashFree segments ∧ u.path = .rooted segments

lemma ends_ne_nil (cs : List Char) (above : List (List Char)) : (trail cs).ends above ≠ [] :=
  List.append_ne_nil_of_right_ne_nil _ (Trail.names_along_ne_nil (Text.pieces_ne_nil _ _))

lemma slashFree_nil : SlashFree [] := fun _ h => absurd h List.not_mem_nil

lemma isProper_of_host {cs : List Char} (h : (Start.host scheme cs).Reaches base u) :
    u.IsProper := by
  obtain ⟨-, a, rest, -, ha, hpath⟩ := h
  intro _
  exact ⟨by rw [ha]; rfl, _, ends_ne_nil _ [], slashFree_ends slashFree_nil _, hpath⟩

lemma isProper_of_reaches {s : Start} (hkind : base.kind = .web) (hbase : base.IsProper)
    (h : s.Reaches base u) : u.IsProper := by
  intro hweb
  obtain ⟨hauthority, segments, hne, hsegments, hpath⟩ := hbase hkind
  cases s with
  | elsewhere => exact absurd hweb h
  | host scheme cs => exact isProper_of_host h hweb
  | root cs =>
    obtain ⟨-, ha, hpath⟩ := h
    exact ⟨by rw [ha, hauthority], _, ends_ne_nil cs [], slashFree_ends slashFree_nil cs, hpath⟩
  | here cs =>
    obtain ⟨-, ha, hpath' | ⟨-, hpath'⟩⟩ := h
    · have hdirs : SlashFree base.dirs := by
        intro segment hsegment
        rw [dirs, hpath] at hsegment
        exact hsegments segment (List.dropLast_subset segments hsegment)
      exact ⟨by rw [ha, hauthority], _, ends_ne_nil cs _, slashFree_ends hdirs cs, hpath'⟩
    · exact ⟨by rw [ha, hauthority], segments, hne, hsegments, hpath'.trans hpath⟩

lemma scheme_relative {cs : List Char} (h : relative base cs = .ok u) : u.scheme = base.scheme := by
  unfold relative at h
  split at h
  · cases h
    rfl
  · cases h
    rfl
  · cases h
    rfl
  · split at h
    · split at h
      · split at h
        · split at h <;> exact scheme_withAuthority h
        · cases h
          rfl
      · cases h
        rfl
    · cases h
      rfl

lemma isProper_of_absolute {base : Option Url} (hbase : ∀ b ∈ base, b.IsProper)
    {named text : List Char} (h : absolute base named text = .ok u) : u.IsProper := by
  by_cases hnamed : Kind.ofScheme named = .web
  · have hhost {cs : List Char} (h : withAuthority named cs = .ok u) : u.IsProper := by
      have hreaches : (Start.host named cs).Reaches u u := withAuthority_reaches hnamed h
      exact isProper_of_host hreaches
    unfold absolute at h
    simp only [hnamed] at h
    cases base with
    | none => exact hhost h
    | some b =>
      dsimp only at h
      split at h
      · rename_i hsame
        have hkind : b.kind = .web := by rw [kind, hsame.2, hnamed]
        exact isProper_of_reaches hkind (hbase b rfl) (relative_reaches hkind h)
      · exact hhost h
  · exact fun hweb => absurd hweb (absolute_elsewhere hnamed h)

theorem isProper_of_resolve {base : Option Url} (hbase : ∀ b ∈ base, b.IsProper)
    {reference : List Char} (h : resolve base reference = .ok u) : u.IsProper := by
  unfold resolve at h
  dsimp only at h
  split at h
  · exact isProper_of_absolute hbase h
  · split at h
    · cases h
    · rename_i b
      have hb := hbase b rfl
      split at h
      · cases h
        exact hb
      · split at h
        · cases h
        · split at h
          · rename_i hfile
            intro hweb
            have hkind : u.kind = .file := kind_fileReference (by simpa using hfile) h
            rw [hweb] at hkind
            cases hkind
          · intro hweb
            have hkind : b.kind = .web := by rwa [kind, ← scheme_relative h]
            exact isProper_of_reaches hkind hb (relative_reaches hkind h) hweb

/-- A URL whose requests are resolved beneath it: of a web server, with a path that ends in a slash
and nothing after it. -/
structure IsApiBase (u : Url) : Prop where
  scheme : u.scheme = "http".toList ∨ u.scheme = "https".toList
  proper : u.IsProper
  slash : u.path.text.getLast? = some '/'
  query : u.query = none
  fragment : u.fragment = none

namespace IsApiBase

lemma kind_eq (h : u.IsApiBase) : u.kind = .web := by
  rw [kind]
  rcases h.scheme with hscheme | hscheme <;> rw [hscheme] <;> rfl

lemma path_eq (h : u.IsApiBase) : u.path = .rooted (u.dirs ++ [[]]) ∧ SlashFree u.dirs := by
  obtain ⟨-, segments, hne, hsegments, hpath⟩ := h.proper h.kind_eq
  obtain ⟨front, last, rfl⟩ := (List.eq_nil_or_concat' segments).resolve_left hne
  have hdirs : u.dirs = front := by
    rw [dirs, hpath]
    exact List.dropLast_concat
  have hlast : last = [] := by
    have hslash := h.slash
    rw [hpath, text_append] at hslash
    cases hempty : last.getLast? with
    | none => exact List.getLast?_eq_none_iff.mp hempty
    | some c =>
      have hc : ((Path.rooted front).text ++ (Path.rooted [last]).text).getLast? = some c := by
        simp [Path.text, List.getLast?_cons, hempty]
      obtain rfl : c = '/' := Option.some.inj (hc.symm.trans hslash)
      exact absurd (List.mem_of_getLast? hempty)
        (hsegments last (List.mem_append_right front List.mem_cons_self))
  subst hlast
  rw [hdirs]
  exact ⟨hpath, fun segment hsegment =>
    hsegments segment (List.mem_append_left [[]] hsegment)⟩

end IsApiBase
end StorageConsole.Url
