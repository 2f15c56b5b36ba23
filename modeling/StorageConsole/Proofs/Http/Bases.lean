import Mathlib.Data.List.TakeWhile
import StorageConsole.Proofs.Http.Beneath
import StorageConsole.Proofs.Url.Plain

/-! Base paths that are configured for a server, and those that lead away from it. -/

namespace StorageConsole.Url

variable {scheme : List Char} {kind : Kind} {cs rest : List Char} {base server u : Url}

/-! ### Authorities -/

def GoesOn (cs rest : List Char) : Prop :=
  ∃ front, cs = front ++ rest ∧ ∀ c ∈ front, endsPath c = false

namespace GoesOn

lemma refl (cs : List Char) : GoesOn cs cs :=
  ⟨[], rfl, fun _ hc => absurd hc List.not_mem_nil⟩

lemma trans {cs' : List Char} (h : GoesOn cs rest) (h' : GoesOn rest cs') : GoesOn cs cs' := by
  obtain ⟨front, rfl, hfront⟩ := h
  obtain ⟨front', rfl, hfront'⟩ := h'
  refine ⟨front ++ front', (List.append_assoc _ _ _).symm, fun c hc => ?_⟩
  exact (List.mem_append.mp hc).elim (hfront c) (hfront' c)

lemma cons {c : Char} (hc : endsPath c = false) (h : GoesOn cs rest) : GoesOn (c :: cs) rest := by
  obtain ⟨front, rfl, hfront⟩ := h
  exact ⟨c :: front, rfl, List.forall_mem_cons.mpr ⟨hc, hfront⟩⟩

lemma dropWhile {p : Char → Bool} (hp : ∀ c, p c = true → endsPath c = false) (cs : List Char) :
    GoesOn cs (cs.dropWhile p) :=
  ⟨cs.takeWhile p, List.takeWhile_append_dropWhile.symm,
    fun c hc => hp c (List.mem_takeWhile_imp hc)⟩

lemma all_iff (h : GoesOn cs rest) :
    (∀ c ∈ cs, endsPath c = false) ↔ ∀ c ∈ rest, endsPath c = false := by
  obtain ⟨front, rfl, hfront⟩ := h
  simp only [List.mem_append, or_imp, forall_and]
  exact and_iff_right hfront

lemma getLast? (h : GoesOn cs rest) {p : Char → Prop} (hp : ∀ c ∈ cs.getLast?, p c) :
    ∀ c ∈ rest.getLast?, p c := by
  obtain ⟨front, rfl, -⟩ := h
  intro c hc
  apply hp
  rw [List.getLast?_append, hc]
  rfl

end GoesOn

lemma not_endsPath_of_isSlash {c : Char} (h : isSlash kind c = true) : endsPath c = false := by
  have hslash : c = '/' ∨ c = '\\' := by
    simpa [isSlash] using
      (Bool.or_eq_true_iff.mp h).imp_right fun h => (Bool.and_eq_true_iff.mp h).1
  rcases hslash with rfl | rfl <;> rfl

lemma not_endsPath_of_not_endsAuthority {c : Char} (h : endsAuthority kind c = false) :
    endsPath c = false :=
  (Bool.or_eq_false_iff.mp h).2

lemma not_endsPath_of_isDigit {c : Char} (h : c.isDigit = true) : endsPath c = false := by
  have hplain : c ≠ '?' ∧ c ≠ '#' := by
    constructor <;> rintro rfl <;> cases h
  simp [endsPath, hplain]

lemma goesOn_splitHost (kind : Kind) (inBrackets : Bool) (cs : List Char) :
    GoesOn cs (splitHost kind inBrackets cs).2 := by
  induction cs generalizing inBrackets with
  | nil => exact .refl []
  | cons c cs ih =>
    rw [splitHost]
    split
    · exact .refl _
    · rename_i hstop
      have hends := (Bool.or_eq_false_iff.mp (Bool.eq_false_iff.mpr hstop)).2
      exact (ih _).cons (not_endsPath_of_not_endsAuthority hends)

lemma goesOn_port {n : Option Nat} (h : port scheme cs = .ok (n, rest)) : GoesOn cs rest := by
  have hrest : rest = cs.dropWhile Char.isDigit := by
    unfold port at h
    dsimp only at h
    split_ifs at h <;> cases h <;> rfl
  rw [hrest]
  exact .dropWhile (fun _ => not_endsPath_of_isDigit) cs

lemma splitCredentials_eq {credentials after : List Char}
    (h : splitCredentials cs = some (credentials, after)) : cs = credentials ++ '@' :: after := by
  unfold splitCredentials at h
  split at h
  · rename_i front hfront
    obtain ⟨rfl, rfl⟩ := Prod.mk.inj (Option.some.inj h)
    have hparts := List.takeWhile_append_dropWhile (p := (· != '@')) (l := cs.reverse)
    rw [hfront] at hparts
    simpa using (congrArg List.reverse hparts).symm
  · cases h

lemma goesOn_credentials {credentials after : List Char}
    (h : splitCredentials (cs.takeWhile (!endsAuthority kind ·)) = some (credentials, after)) :
    GoesOn cs (after ++ cs.dropWhile (!endsAuthority kind ·)) := by
  have hparts := List.takeWhile_append_dropWhile (p := (!endsAuthority kind ·)) (l := cs)
  have hfront := splitCredentials_eq h
  refine ⟨credentials ++ ['@'], ?_, fun c hc => ?_⟩
  · rw [hfront] at hparts
    simpa using hparts.symm
  · have hc : c ∈ cs.takeWhile (!endsAuthority kind ·) := by
      rw [hfront, ← List.singleton_append, ← List.append_assoc]
      exact List.mem_append_left after hc
    exact not_endsPath_of_not_endsAuthority (by simpa using List.mem_takeWhile_imp hc)

lemma exists_of_bind {ε α β : Type} {x : Except ε α} {f : α → Except ε β} {b : β}
    (h : (x >>= f) = .ok b) : ∃ a, x = .ok a ∧ f a = .ok b := by
  cases x with
  | error e => cases h
  | ok a => exact ⟨a, rfl, h⟩

lemma goesOn_readAuthority {a : Authority} (h : readAuthority scheme cs = .ok (a, rest)) :
    GoesOn cs rest := by
  unfold readAuthority at h
  extract_lets kind afterCredentials at h
  have hafter (x : List Char × List Char) (hx : afterCredentials x = .ok (a, rest)) :
      GoesOn x.2 rest := by
    simp -zeta only [afterCredentials] at hx
    extract_lets username password afterHost at hx
    have hhost (host : Host) (hhost : afterHost host = .ok (a, rest)) :
        GoesOn (splitHost kind false x.2).2 rest := by
      simp -zeta only [afterHost] at hhost
      extract_lets finish at hhost
      have hrest {y : Option Nat × List Char} (hy : finish y = .ok (a, rest)) : y.2 = rest := by
        simp only [finish] at hy
        split at hy <;> cases hy
        rfl
      split at hhost
      · rename_i after hcolon
        rw [hcolon]
        split at hhost
        · cases hhost
        · obtain ⟨y, hy, hfinish⟩ := exists_of_bind hhost
          obtain rfl := hrest hfinish
          exact (goesOn_port hy).cons rfl
      · obtain rfl := hrest hhost
        exact .refl _
    refine (goesOn_splitHost kind false x.2).trans ?_
    split at hx
    · obtain ⟨host, -, hx⟩ := exists_of_bind hx
      exact hhost host hx
    · split at hx
      · cases hx
      · obtain ⟨host, -, hx⟩ := exists_of_bind hx
        exact hhost host hx
  split at h
  · exact hafter ([], cs) h
  · rename_i after hsplit
    dsimp only at h
    split at h
    · cases h
    · exact (goesOn_credentials hsplit).trans (hafter ([], _) h)
  · rename_i credentials after hne hsplit
    exact (goesOn_credentials hsplit).trans (hafter (credentials, _) h)

/-! ### References from the root -/

lemma goesOn_dropSlash (kind : Kind) (cs : List Char) : GoesOn cs (dropSlash kind cs) := by
  unfold dropSlash
  split
  · rename_i c cs
    split
    · rename_i hc
      exact (GoesOn.refl cs).cons (not_endsPath_of_isSlash hc)
    · exact .refl _
  · exact .refl _

lemma withAuthority_goesOn (hkind : Kind.ofScheme scheme = .web)
    (h : withAuthority scheme cs = .ok u) :
    ∃ a text, u = withPath scheme (some a) [] text ∧ GoesOn cs text := by
  unfold withAuthority at h
  simp only [hkind, if_false, false_and, reduceCtorEq] at h
  split at h
  · cases h
  · rename_i a hread
    cases h
    exact ⟨a, [], rfl, goesOn_readAuthority hread⟩
  · rename_i a c rest hread
    cases h
    exact ⟨a, _, rfl, (goesOn_readAuthority hread).trans (goesOn_dropSlash .web (c :: rest))⟩

lemma relative_goesOn (hkind : server.kind = .web) (h : relative server ('/' :: cs) = .ok u) :
    ∃ a text, u = withPath server.scheme a [] text ∧ GoesOn cs text := by
  have hhost {rest : List Char} (hrest : GoesOn cs rest)
      (h : withAuthority server.scheme rest = .ok u) :
      ∃ a text, u = withPath server.scheme a [] text ∧ GoesOn cs text := by
    obtain ⟨a, text, hu, htext⟩ := withAuthority_goesOn hkind h
    exact ⟨some a, text, hu, hrest.trans htext⟩
  cases cs with
  | nil =>
    cases h
    exact ⟨_, _, rfl, .refl []⟩
  | cons d after =>
    have hd (hd : d = '/' ∨ d = '\\') : endsPath d = false := by
      rcases hd with rfl | rfl <;> rfl
    unfold relative at h
    split at h
    · contradiction
    · rename_i hcons
      exact absurd (List.cons.inj hcons).1 (by decide)
    · rename_i hcons
      exact absurd (List.cons.inj hcons).1 (by decide)
    · rename_i c rest hhash hmark hcons
      obtain ⟨rfl, rfl⟩ := List.cons.inj hcons
      dsimp only at h
      rw [if_pos (.inl rfl)] at h
      split_ifs at h with hslash hdouble
      · exact hhost ((GoesOn.refl after).cons (hd hslash)) h
      · rw [← isSlash_web] at h
        exact hhost ((GoesOn.dropWhile (fun _ => not_endsPath_of_isSlash) after).cons (hd hslash)) h
      · cases h
        exact ⟨_, _, rfl, .refl _⟩

lemma withPath_marks (hkind : Kind.ofScheme scheme = .web) (a : Option Authority)
    (above : List (List Char)) (cs : List Char) :
    ((withPath scheme a above cs).query = none ∧ (withPath scheme a above cs).fragment = none) ↔
      ∀ c ∈ cs, endsPath c = false := by
  have htail : (withPath scheme a above cs).query =
        (tail .web (solid (cs.dropWhile (!endsPath ·)))).1 ∧
      (withPath scheme a above cs).fragment =
        (tail .web (solid (cs.dropWhile (!endsPath ·)))).2 := by
    rw [← hkind]
    exact ⟨rfl, rfl⟩
  rw [htail.1, htail.2]
  cases hrest : cs.dropWhile (!endsPath ·) with
  | nil => exact iff_of_true ⟨rfl, rfl⟩ (by simpa using List.dropWhile_eq_nil_iff.mp hrest)
  | cons c more =>
    have hc : endsPath c = true := by
      have hstop := List.head?_dropWhile_not (!endsPath ·) cs
      rw [hrest] at hstop
      simpa using hstop
    have hmem : c ∈ cs := (List.dropWhile_sublist _).subset (hrest ▸ List.mem_cons_self)
    refine iff_of_false ?_ fun hall => Bool.false_ne_true ((hall c hmem).symm.trans hc)
    have hmark : c = '?' ∨ c = '#' := by simpa [endsPath] using hc
    rcases hmark with rfl | rfl
    · exact fun h => Option.some_ne_none _ h.1
    · exact fun h => Option.some_ne_none _ h.2

lemma getLast?_along (t : Trail) (pieces : List (List Char)) :
    (t.along (pieces ++ [[]])).names.getLast? = some [] := by
  induction pieces generalizing t with
  | nil => exact List.getLast?_concat
  | cons piece more ih =>
    obtain ⟨next, rest, hmore⟩ := List.exists_cons_of_ne_nil
      (List.append_ne_nil_of_right_ne_nil more (List.cons_ne_nil ([] : List Char) []))
    rw [List.cons_append, hmore, Trail.along]
    rw [hmore] at ih
    split <;> exact ih _

lemma withPath_slash (hkind : Kind.ofScheme scheme = .web) (a : Option Authority)
    (hmarks : ∀ c ∈ cs, endsPath c = false) (hlast : ∀ c ∈ cs.getLast?, c = '/') :
    (withPath scheme a [] cs).path.text.getLast? = some '/' := by
  have hpieces : ∃ pieces, Text.pieces (isSlash .web) cs = pieces ++ [[]] := by
    rcases List.eq_nil_or_concat' cs with rfl | ⟨front, c, rfl⟩
    · exact ⟨[], rfl⟩
    · obtain rfl := hlast c List.getLast?_concat
      exact ⟨_, Text.pieces_append_cons _ front [] rfl⟩
  obtain ⟨pieces, hpieces⟩ := hpieces
  have htaken : cs.takeWhile (!endsPath ·) = cs :=
    List.takeWhile_eq_self_iff.mpr (by simpa using hmarks)
  have hnames : (trail cs).names.getLast? = some [] := by
    rw [trail, htaken, hpieces]
    exact getLast?_along {} pieces
  obtain ⟨dirs, hdirs⟩ := List.getLast?_eq_some_iff.mp hnames
  rw [withPath_web hkind, Trail.ends, hdirs, ← List.append_assoc, text_append]
  exact List.getLast?_concat

/-! ### Base paths -/

def Start.StaysOn (server : Url) : Start → Prop
  | .elsewhere => False
  | .host scheme cs => scheme = server.scheme ∧ ∃ a rest, readAuthority scheme cs = .ok (a, rest) ∧
      server.authority.map (·.host) = some a.host ∧ server.authority.map (·.port) = some a.port
  | .root _ => True
  | .here _ => True

structure IsBaseOn (u server : Url) : Prop where
  scheme : u.scheme = server.scheme
  host : u.authority.map (·.host) = server.authority.map (·.host)
  port : u.authority.map (·.port) = server.authority.map (·.port)
  slash : u.path.text.getLast? = some '/'
  query : u.query = none
  fragment : u.fragment = none

def fromRoot (basePath : String) : List Char :=
  let trimmed :=
    ((basePath.toList.dropWhile (· == '/')).reverse.dropWhile (· == '/')).reverse
  if trimmed.isEmpty then ['/'] else '/' :: trimmed ++ ['/']

lemma staysOn_iff_of_reaches (hkind : server.kind = .web) {s : Start} (h : s.Reaches server u) :
    s.StaysOn server ↔ u.scheme = server.scheme ∧
      u.authority.map (·.host) = server.authority.map (·.host) ∧
      u.authority.map (·.port) = server.authority.map (·.port) := by
  cases s with
  | elsewhere =>
    refine iff_of_false id fun hsame => h ?_
    rw [kind, hsame.1]
    exact hkind
  | host scheme cs =>
    obtain ⟨rfl, a, rest, hread, ha, -⟩ := h
    rw [ha]
    constructor
    · rintro ⟨hscheme, named, after, hnamed, hhost, hport⟩
      obtain ⟨rfl, rfl⟩ := Prod.mk.inj (Except.ok.inj (hread.symm.trans hnamed))
      exact ⟨hscheme, hhost.symm, hport.symm⟩
    · rintro ⟨hscheme, hhost, hport⟩
      exact ⟨hscheme, a, rest, hread, hhost.symm, hport.symm⟩
  | root cs =>
    obtain ⟨hscheme, ha, -⟩ := h
    exact iff_of_true trivial ⟨hscheme, by rw [ha], by rw [ha]⟩
  | here cs =>
    obtain ⟨hscheme, ha, -⟩ := h
    exact iff_of_true trivial ⟨hscheme, by rw [ha], by rw [ha]⟩

lemma fromRoot_eq (basePath : String) : ∃ more, fromRoot basePath = '/' :: more ∧
    (∀ c ∈ more.getLast?, c = '/') ∧
    ((∀ c ∈ more, endsPath c = false) ↔ ∀ c ∈ basePath.toList, endsPath c = false) := by
  have hslash : ∀ c, (c == '/') = true → endsPath c = false := by
    intro c hc
    rw [beq_iff_eq.mp hc]
    rfl
  have htrimmed :
      (∀ c ∈ ((basePath.toList.dropWhile (· == '/')).reverse.dropWhile (· == '/')).reverse,
        endsPath c = false) ↔ ∀ c ∈ basePath.toList, endsPath c = false := by
    have hfront := (GoesOn.dropWhile hslash basePath.toList).all_iff
    have hback := (GoesOn.dropWhile hslash (basePath.toList.dropWhile (· == '/')).reverse).all_iff
    simp only [List.mem_reverse] at hback ⊢
    exact hback.symm.trans hfront.symm
  unfold fromRoot
  dsimp only
  split
  · rename_i hempty
    rw [List.isEmpty_iff.mp hempty] at htrimmed
    exact ⟨[], rfl, fun c hc => absurd hc (Option.not_mem_none c), htrimmed⟩
  · refine ⟨_ ++ ['/'], rfl, fun c hc => ?_, ?_⟩
    · rw [List.getLast?_concat] at hc
      exact (Option.some.inj hc).symm
    · rw [← htrimmed, List.forall_mem_append]
      exact and_iff_left (by simp [endsPath])

lemma trimEdges_of_ends (hhead : ∀ c ∈ cs.head?, isEdge c = false)
    (hlast : ∀ c ∈ cs.getLast?, isEdge c = false) : trimEdges cs = cs := by
  have hdrop {cs : List Char} (h : ∀ c ∈ cs.head?, isEdge c = false) :
      cs.dropWhile isEdge = cs := by
    cases cs with
    | nil => rfl
    | cons c cs => exact List.dropWhile_cons_of_neg (by simp [h c rfl])
  rw [trimEdges, hdrop hhead, hdrop (by simpa using hlast), List.reverse_reverse]

lemma all_solid_iff : (∀ c ∈ solid cs, endsPath c = false) ↔ ∀ c ∈ cs, endsPath c = false := by
  refine ⟨fun h c hc => ?_, fun h c hc => h c (List.mem_of_mem_filter hc)⟩
  by_cases hbreak : isBreak c = true
  · have hc : (c = '\t' ∨ c = '\n') ∨ c = '\r' := by simpa [isBreak] using hbreak
    rcases hc with (rfl | rfl) | rfl <;> rfl
  · exact h c (List.mem_filter.mpr ⟨hc, by simpa using hbreak⟩)

lemma getLast?_solid (hlast : ∀ c ∈ cs.getLast?, c = '/') : ∀ c ∈ (solid cs).getLast?, c = '/' := by
  rcases List.eq_nil_or_concat' cs with rfl | ⟨front, d, rfl⟩
  · exact hlast
  · obtain rfl := hlast d List.getLast?_concat
    intro c hc
    rw [solid, List.filter_append, List.filter_cons_of_pos (by decide), List.filter_nil,
      List.getLast?_concat] at hc
    exact (Option.some.inj hc).symm

lemma resolve_root (hkind : server.kind = .web) {segments : List (List Char)}
    (hpath : server.path = .rooted segments) (hlast : ∀ c ∈ cs.getLast?, c = '/') :
    resolve (some server) ('/' :: cs) = relative server ('/' :: solid cs) := by
  have htrim : trimEdges ('/' :: cs) = '/' :: cs := by
    apply trimEdges_of_ends
    · intro c hc
      cases hc
      rfl
    · intro c hc
      have hc : c = '/' := by
        rw [List.getLast?_cons] at hc
        cases hcs : cs.getLast? with
        | none => simpa [hcs] using hc.symm
        | some d =>
          rw [← hlast d hcs]
          simpa [hcs] using hc.symm
      rw [hc]
      rfl
  have hsolid : solid ('/' :: cs) = '/' :: solid cs := List.filter_cons_of_pos (by decide)
  have hscheme : scheme? ('/' :: solid cs) = none := rfl
  simp only [resolve, htrim, hsolid, hscheme, hpath, hkind, List.head?_cons, reduceCtorEq, if_false]
  rw [if_neg (by decide)]

def inSegment (c : Char) : Bool := !isSlash .web c && !endsPath c && c != ':'

def IsBelow (cs : List Char) : Prop :=
  cs.all inSegment = true ∧ dots (solid (trimEdges cs)) ≠ some 2

instance : DecidablePred IsBelow := fun _ => inferInstanceAs (Decidable (_ ∧ _))

lemma mem_of_mem_trimEdges {c : Char} (h : c ∈ trimEdges cs) : c ∈ cs := by
  have hback := (List.dropWhile_sublist isEdge).subset (List.mem_reverse.mp h)
  exact (List.dropWhile_sublist isEdge).subset (List.mem_reverse.mp hback)

lemma trail_of_isBelow (hslash : ∀ c ∈ cs, isSlash .web c = false)
    (hmarks : ∀ c ∈ cs, endsPath c = false) (hdots : dots (solid cs) ≠ some 2) :
    ∃ name, trail cs = ⟨0, [name]⟩ := by
  have htaken : cs.takeWhile (!endsPath ·) = cs :=
    List.takeWhile_eq_self_iff.mpr (by simpa using hmarks)
  rw [trail, htaken, Text.pieces_eq_singleton hslash, Trail.along]
  split
  · contradiction
  · exact ⟨[], rfl⟩
  · exact ⟨_, rfl⟩

lemma ofRelative_of_isBelow (hslash : ∀ c ∈ cs, isSlash .web c = false) :
    Start.ofRelative scheme cs = .here cs := by
  cases cs with
  | nil => rfl
  | cons c rest => simp [Start.ofRelative, hslash c List.mem_cons_self]

lemma relative_of_isBelow (base : Url) (hslash : ∀ c ∈ cs, isSlash .web c = false) :
    ∃ v, relative base cs = .ok v := by
  unfold relative
  dsimp only
  split
  · exact ⟨_, rfl⟩
  · exact ⟨_, rfl⟩
  · exact ⟨_, rfl⟩
  · rename_i c rest _ _
    have hc : ¬(c = '/' ∨ c = '\\') := by
      rintro (rfl | rfl) <;> cases hslash _ List.mem_cons_self
    rw [if_neg hc]
    exact ⟨_, rfl⟩

lemma resolve_below (hbase : base.IsApiBase) {name : List Char} (hname : IsBelow name) :
    ∃ v, resolve (some base) name = .ok v ∧ base.Beneath v := by
  obtain ⟨hplain, hdots⟩ := hname
  obtain ⟨hpath, -⟩ := hbase.path_eq
  have hclean : ∀ c ∈ solid (trimEdges name),
      (isSlash .web c = false ∧ endsPath c = false) ∧ c ≠ ':' := by
    intro c hc
    have hname := mem_of_mem_trimEdges (List.mem_of_mem_filter hc)
    simpa [inSegment] using List.all_eq_true.mp hplain c hname
  have hslash : ∀ c ∈ solid (trimEdges name), isSlash .web c = false :=
    fun c hc => (hclean c hc).1.1
  have hmarks : ∀ c ∈ solid (trimEdges name), endsPath c = false :=
    fun c hc => (hclean c hc).1.2
  have hscheme : scheme? (solid (trimEdges name)) = none :=
    scheme?_eq_none fun hc => (hclean ':' hc).2 rfl
  have hhead : (solid (trimEdges name)).head? ≠ some '#' := fun hc =>
    Bool.false_ne_true (hmarks '#' (List.mem_of_head? hc)).symm
  have hresolve : resolve (some base) name = relative base (solid (trimEdges name)) := by
    simp only [resolve, hscheme, hhead, if_false, hpath, hbase.kind_eq, reduceCtorEq]
  obtain ⟨v, hv⟩ := relative_of_isBelow base hslash
  refine ⟨v, hresolve.trans hv, ?_⟩
  rw [beneath_iff_of_reaches hbase (resolve_reaches hbase.kind_eq hpath (hresolve.trans hv)),
    Contained, start, hscheme, ofRelative_of_isBelow hslash]
  have hsolid : solid (solid (trimEdges name)) = solid (trimEdges name) := by simp [solid]
  obtain ⟨last, hlast⟩ := trail_of_isBelow hslash hmarks (by rwa [hsolid])
  exact ⟨[last], List.cons_ne_nil last [], by rw [hlast]; rfl⟩

/-- An API is on the server that it is configured for, on a path that ends in a slash, exactly if
its base path has no marks and names no other server; what is then asked for by a segment is beneath
the API. -/
theorem ofOrigin_isBaseOn_iff (origin basePath : String) (server u : Url)
    (hserver : parse origin = .ok server)
    (hscheme : server.scheme = "http".toList ∨ server.scheme = "https".toList)
    (h : ofOrigin origin basePath = .ok u) :
    (u.IsBaseOn server ↔ (start server.scheme (fromRoot basePath)).StaysOn server ∧
      ∀ c ∈ basePath.toList, endsPath c = false) ∧
    (u.IsBaseOn server →
      ∀ name, IsBelow name → ∃ v, resolve (some u) name = .ok v ∧ u.Beneath v) := by
  have hproper : server.IsProper := isProper_of_resolve (by simp) hserver
  have hkind : server.kind = .web := by
    rw [kind]
    rcases hscheme with hscheme | hscheme <;> rw [hscheme] <;> rfl
  obtain ⟨-, segments, -, -, hpath⟩ := hproper hkind
  have hresolve : resolve (some server) (fromRoot basePath) = .ok u := by
    obtain ⟨server', hserver', hresolve⟩ := exists_of_bind h
    obtain rfl : server = server' := Except.ok.inj (hserver.symm.trans hserver')
    exact hresolve
  constructor
  · rw [staysOn_iff_of_reaches hkind (resolve_reaches hkind hpath hresolve)]
    obtain ⟨more, hmore, hlast, hmarks⟩ := fromRoot_eq basePath
    rw [hmore, resolve_root hkind hpath hlast] at hresolve
    obtain ⟨a, text, rfl, htext⟩ := relative_goesOn hkind hresolve
    have hends := withPath_marks hkind a [] text
    have hall := (htext.all_iff.symm.trans all_solid_iff).trans hmarks
    constructor
    · intro hon
      exact ⟨⟨hon.scheme, hon.host, hon.port⟩, hall.mp (hends.mp ⟨hon.query, hon.fragment⟩)⟩
    · rintro ⟨⟨hscheme, hhost, hport⟩, hnone⟩
      have hfree := hall.mpr hnone
      obtain ⟨hquery, hfragment⟩ := hends.mpr hfree
      have hslash := withPath_slash hkind a hfree (htext.getLast? (getLast?_solid hlast))
      exact ⟨hscheme, hhost, hport, hslash, hquery, hfragment⟩
  · intro hon name hname
    refine resolve_below ⟨?_, ?_, hon.slash, hon.query, hon.fragment⟩ hname
    · rw [hon.scheme]
      exact hscheme
    · exact isProper_of_resolve (by simpa using hproper) hresolve

def consoleServer : Url :=
  ⟨"http".toList, some ⟨[], [], .name "console.test".toList, none⟩, .rooted [[]], none, none⟩

lemma parse_consoleServer : parse "http://console.test" = .ok consoleServer := rfl

theorem base_names_own_server :
    parse "http://console.test" = .ok consoleServer ∧
    ∃ u, ofOrigin "http://console.test" "\t/CONSOLE.test:80/api/" = .ok u ∧
      u.text = "http://console.test/api/" ∧ u.IsBaseOn consoleServer ∧
      ∃ v, resolve (some u) "stats".toList = .ok v ∧ u.Beneath v := by
  have hbase : ofOrigin "http://console.test" "\t/CONSOLE.test:80/api/" =
      .ok { consoleServer with path := .rooted ["api".toList, []] } := rfl
  have hmarks : ∀ c ∈ "\t/CONSOLE.test:80/api/".toList, endsPath c = false := by
    have hall : "\t/CONSOLE.test:80/api/".toList.all (!endsPath ·) = true := by decide
    exact fun c hc => by simpa using List.all_eq_true.mp hall c hc
  obtain ⟨hiff, hbelow⟩ := ofOrigin_isBaseOn_iff _ _ _ _ parse_consoleServer (.inl rfl) hbase
  have hon := hiff.mpr ⟨⟨rfl, _, _, rfl, rfl, rfl⟩, hmarks⟩
  exact ⟨parse_consoleServer, _, hbase, by decide, hon, hbelow hon _ (by decide)⟩

theorem base_path_leaves_server :
    parse "http://console.test" = .ok consoleServer ∧
    (∃ u, ofOrigin "http://console.test" "\\evil.test" = .ok u ∧
      u.text = "http://evil.test/" ∧ ¬u.IsBaseOn consoleServer) ∧
    ∃ u, ofOrigin "http://console.test" "api?v=1" = .ok u ∧
      u.text = "http://console.test/api?v=1/" ∧ ¬u.IsBaseOn consoleServer := by
  refine ⟨parse_consoleServer, ?_, ?_⟩
  · refine ⟨⟨"http".toList, some ⟨[], [], .name "evil.test".toList, none⟩, .rooted [[]], none,
      none⟩, rfl, by decide +kernel, ?_⟩
    intro hon
    exact absurd hon.host (by decide)
  · refine ⟨{ consoleServer with path := .rooted ["api".toList], query := some "v=1/".toList },
      rfl, by decide +kernel, ?_⟩
    intro hon
    exact absurd hon.query (by decide)

end StorageConsole.Url
