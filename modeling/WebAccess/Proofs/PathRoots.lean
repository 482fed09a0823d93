import WebAccess.Proofs.PathCuts
import WebAccess.Proofs.WalkPlaces

/-!
# Which chains of containers end at the root

Every chain of containers that are cut from the path ends, since each is shorter than what it
contains. It should end at the root, so that the rules of the root govern whatever has none of its
own. Two kinds of identifiers miss it. Where a `://` stands in the path of an identifier that has no
scheme, the cut takes it for the mark behind a scheme and never gets below it
(`Identifier.not_path_root_of_mark`). And a path that is one slash counts as empty, so a chain that
comes to the root with a second slash stops there; whether it does is told by the number of slashes
that are left when the named segments are gone (`Identifier.path_root_iff`). No cut changes whether
this number is even (`Identifier.slashesLeft_container`).

Main statement: a chain ends at the root, and the search for rules reads the root, exactly if the
identifier is of neither kind (`Store.chain_ends_at_root_iff`).
-/

set_option autoImplicit false

namespace WebAccess

namespace Identifier

variable {id e t w : Identifier} {k : Nat}

/-! ## Chains -/

/-- The first of several climbs leads to the container and the others lead on from there. -/
theorem path_succ_eq_bind (next : Identifier → Option Identifier) (id : Identifier) (k : Nat) :
    path next id (k + 1) = (next id).bind fun p => path next p k := by
  induction k with
  | zero =>
    rw [path, path, Option.bind_some]
    cases next id <;> rfl
  | succ k ih =>
    rw [path, ih, Option.bind_assoc]
    rfl

variable {next : Identifier → Option Identifier}

/-- From an identifier without a container a chain leads to itself only. -/
theorem exists_path_of_none (h : next id = none) : (∃ k, path next id k = some t) ↔ id = t := by
  constructor
  · rintro ⟨_ | k, hk⟩
    · exact Option.some.inj hk
    · rw [path_succ_eq_bind, h] at hk
      cases hk
  · rintro rfl
    exact ⟨0, rfl⟩

/-- A chain leads to the identifiers that the chain of the container leads to, and to its start. -/
theorem exists_path_of_some {p : Identifier} (h : next id = some p) (hne : id ≠ t) :
    (∃ k, path next id k = some t) ↔ ∃ k, path next p k = some t := by
  constructor
  · rintro ⟨_ | k, hk⟩
    · exact absurd (Option.some.inj hk) hne
    · rw [path_succ_eq_bind, h, Option.bind_some] at hk
      exact ⟨k, hk⟩
  · rintro ⟨k, hk⟩
    refine ⟨k + 1, ?_⟩
    rw [path_succ_eq_bind, h, Option.bind_some, hk]

/-- Along a path each climb takes at least one character away. -/
theorem length_add_le_of_path {v : Identifier} {i d : Nat} (hv : path parent? id i = some v)
    (hw : path parent? id (i + d) = some w) : w.length + d ≤ v.length := by
  induction d generalizing w with
  | zero =>
    obtain rfl : v = w := Option.some.inj (hv.symm.trans hw)
    omega
  | succ d ih =>
    obtain ⟨u, hu, hup⟩ := Option.bind_eq_some_iff.1 hw
    have hbelow := ih hu
    have hshorter := length_lt_of_parent? hup
    omega

/-- Seen from the start as well, each climb takes at least one character away. -/
theorem length_add_le_of_path_start (h : path parent? id k = some w) :
    w.length + k ≤ id.length := by
  apply length_add_le_of_path (i := 0) rfl
  rwa [Nat.zero_add]

/-- Along the path no identifier is its own ancestor. -/
theorem unrepeated_parent? (h : path parent? id k = some w) : Unrepeated parent? id k := by
  intro i j hij hj hsame
  obtain ⟨v, hv⟩ := exists_path_of_le h hj
  obtain ⟨d, rfl⟩ : ∃ d, j = i + d := ⟨j - i, by omega⟩
  have hshorter := length_add_le_of_path (hsame.trans hv) hv
  omega

/-- Every chain leads to an identifier without a container. -/
theorem exists_end (id : Identifier) : ∃ k e, path parent? id k = some e ∧ parent? e = none := by
  induction hlen : id.length using Nat.strongRecOn generalizing id with
  | _ n ih =>
    cases hp : parent? id with
    | none => exact ⟨0, id, rfl, hp⟩
    | some p =>
      obtain ⟨k, e, hk, he⟩ := ih p.length (hlen ▸ length_lt_of_parent? hp) p rfl
      refine ⟨k + 1, e, ?_, he⟩
      rw [path_succ_eq_bind, hp, Option.bind_some, hk]

/-- The end of a chain is the one identifier without a container that the chain leads to. -/
theorem end_eq_iff (hpath : path parent? id k = some e) (he : parent? e = none)
    (ht : parent? t = none) : e = t ↔ ∃ j, path parent? id j = some t := by
  constructor
  · rintro rfl
    exact ⟨k, hpath⟩
  · rintro ⟨j, hj⟩
    rcases Nat.lt_trichotomy j k with hlt | rfl | hgt
    · rw [path_eq_none_of_lt hj ht hlt] at hpath
      cases hpath
    · exact Option.some.inj (hpath.symm.trans hj)
    · rw [path_eq_none_of_lt hpath he hgt] at hj
      cases hj

/-! ## Slashes in front -/

/-- The slashes that are left of a path when its named segments are cut off: those in front, less
the one that separates them from the first named segment. -/
def slashesLeft (path : List Char) : Nat :=
  let slashes := path.takeWhile (· = '/')
  if slashes = path then slashes.length else slashes.length - 1

/-- A path of slashes alone leaves them all. -/
theorem slashesLeft_slashes (n : Nat) : slashesLeft (List.replicate n '/') = n := by
  simp [slashesLeft]

/-- In front of a named segment one slash fewer is left than stands there. -/
theorem slashesLeft_named {c : Char} (hc : c ≠ '/') (n : Nat) (rest : List Char) :
    slashesLeft (List.replicate n '/' ++ c :: rest) = n - 1 := by
  simp [slashesLeft, hc]

/-- A path consists of slashes alone, or slashes stand in front of its first named segment. -/
theorem slashes_or_named (path : List Char) :
    (∃ n, path = List.replicate n '/') ∨
      ∃ n c rest, c ≠ '/' ∧ path = List.replicate n '/' ++ c :: rest := by
  induction path with
  | nil => exact .inl ⟨0, rfl⟩
  | cons d path ih =>
    by_cases hd : d = '/'
    · subst hd
      rcases ih with ⟨n, rfl⟩ | ⟨n, c, rest, hc, rfl⟩
      · exact .inl ⟨n + 1, rfl⟩
      · exact .inr ⟨n + 1, c, rest, hc, rfl⟩
    · exact .inr ⟨0, d, path, hd, rfl⟩

variable {path before segment : List Char}

/-- A path that begins with a named segment leaves no slashes. -/
theorem slashesLeft_of_segment (h : '/' ∉ segment) (hne : segment ≠ []) (rest : List Char) :
    slashesLeft (segment ++ rest) = 0 := by
  cases segment with
  | nil => exact absurd rfl hne
  | cons c segment =>
    have hc : c ≠ '/' := fun hc => h (hc ▸ List.mem_cons_self)
    exact slashesLeft_named hc 0 (segment ++ rest)

/-- A named segment at the end of a path leaves no more slashes. -/
theorem slashesLeft_append_segment (h : '/' ∉ segment) (hne : segment ≠ []) (tail : List Char) :
    slashesLeft (before ++ '/' :: segment ++ tail) = slashesLeft before := by
  cases segment with
  | nil => exact absurd rfl hne
  | cons d segment =>
    have hd : d ≠ '/' := fun hd => h (hd ▸ List.mem_cons_self)
    rcases slashes_or_named before with ⟨n, rfl⟩ | ⟨n, c, rest, hc, rfl⟩
    · have hslashes := slashesLeft_named hd (n + 1) (segment ++ tail)
      rw [List.replicate_succ', List.append_assoc] at hslashes
      rw [slashesLeft_slashes, List.append_assoc]
      exact hslashes
    · rw [slashesLeft_named hc]
      simpa using slashesLeft_named hc n (rest ++ '/' :: d :: segment ++ tail)

/-- An empty segment at the end is cut off with the slashes on both sides of it. -/
theorem slashesLeft_append_empty (before : List Char) :
    slashesLeft (before ++ ['/', '/']) % 2 = slashesLeft before % 2 := by
  rcases slashes_or_named before with ⟨n, rfl⟩ | ⟨n, c, rest, hc, rfl⟩
  · have hslashes : List.replicate n '/' ++ ['/', '/'] = List.replicate (n + 2) '/' := by
      simp [List.replicate_succ']
    rw [hslashes, slashesLeft_slashes, slashesLeft_slashes]
    omega
  · have hnamed := slashesLeft_named hc n (rest ++ ['/', '/'])
    rw [slashesLeft_named hc, List.append_assoc, List.cons_append, hnamed]

/-- Whether the slashes that are left are even in number does not change from a path to that of the
container. -/
theorem slashesLeft_container (h : dropTrailingSlash path ≠ []) :
    slashesLeft (beforeLastSlash (dropTrailingSlash path)) % 2 = slashesLeft path % 2 := by
  obtain ⟨tail, hpath, htail⟩ := dropTrailingSlash_cases path
  generalize dropTrailingSlash path = kept at h hpath htail
  subst hpath
  rcases beforeLastSlash_cases kept with ⟨segment, hsegment, hkept⟩ | ⟨hno, hnil⟩
  · generalize beforeLastSlash kept = before at hkept
    subst hkept
    by_cases hempty : segment = []
    · subst hempty
      rcases htail with rfl | ⟨-, hend⟩
      · rw [List.append_assoc]
        exact (slashesLeft_append_empty before).symm
      · exact absurd rfl (hend before)
    · rw [slashesLeft_append_segment hsegment hempty]
  · rw [hnil, slashesLeft_of_segment hno h]
    rfl

/-! ## Roots -/

/-- The text has a scheme in front: there is a mark with no slash before it. -/
def HasScheme (cs : List Char) : Prop :=
  ∃ scheme rest, '/' ∉ scheme ∧ cs = scheme ++ schemeMark ++ rest

/-- A text that begins with a slash has no scheme in front. -/
theorem not_hasScheme_slash (cs : List Char) : ¬HasScheme ('/' :: cs) := by
  rintro ⟨scheme, rest, hscheme, hcs⟩
  cases scheme with
  | nil => cases hcs
  | cons c scheme =>
    obtain rfl : '/' = c := by simpa using congrArg List.head? hcs
    exact hscheme List.mem_cons_self

/-- A text is put together from its root and what stands below it. -/
inductive HasRoot (cs root below : List Char) : Prop
  /-- Behind a scheme the root goes up to the slash after the authority. -/
  | authority {scheme authority : List Char} (hscheme : '/' ∉ scheme) (hauthority : '/' ∉ authority)
    (hroot : root = scheme ++ schemeMark ++ (authority ++ ['/'])) (hcs : cs = root ++ below)
  /-- Without a scheme it goes up to the first slash. -/
  | plain {front : List Char} (hnot : ¬HasScheme cs) (hfront : '/' ∉ front)
    (hroot : root = front ++ ['/']) (hcs : cs = root ++ below)

variable {cs root below : List Char}

/-- A text is its root followed by what stands below it. -/
theorem HasRoot.append (h : HasRoot cs root below) : cs = root ++ below := by
  cases h with
  | authority _ _ _ hcs => exact hcs
  | plain _ _ _ hcs => exact hcs

/-- There is one slash in a root without a scheme, and there are two in a mark. -/
theorem not_schemeMark_isInfix {front : List Char} (hfront : '/' ∉ front) :
    ¬schemeMark <:+: front ++ ['/'] := by
  intro h
  have hcount := h.sublist.count_le '/'
  rw [List.count_append, List.count_eq_zero_of_not_mem hfront] at hcount
  exact absurd hcount (by decide)

/-- Below a root that the cut finds, it finds the same root for every shorter path. -/
theorem HasRoot.splitRoot_of_isPrefix (h : HasRoot cs root below)
    (hmark : HasScheme cs ∨ ¬schemeMark <:+: cs) {q : List Char} (hq : q <+: below) :
    splitRoot (root ++ q) = some (root, q) := by
  cases h with
  | authority hscheme hauthority hroot hcs =>
    subst hroot
    have hsplit := @splitRoot_of_authority q _ _ hscheme hauthority
    simpa using hsplit
  | @plain front hnot hfront hroot hcs =>
    subst hroot
    have hshorter : front ++ '/' :: q <+: cs := by
      rw [hcs, List.append_assoc]
      exact (List.prefix_append_right_inj front).2 ((List.prefix_cons_inj '/').2 hq)
    have hnone : ¬schemeMark <:+: front ++ '/' :: q := by
      intro hwithin
      rcases hmark with hscheme | hmark
      · exact hnot hscheme
      · exact hmark (hwithin.trans hshorter.isInfix)
    simpa using splitRoot_of_plain hfront hnone

/-- A root has no container. -/
theorem HasRoot.parent?_root (h : HasRoot cs root below) : parent? (String.ofList root) = none := by
  have hsplit : splitRoot root = some (root, []) := by
    cases h with
    | authority hscheme hauthority hroot hcs =>
      subst hroot
      have hsplit := @splitRoot_of_authority [] _ _ hscheme hauthority
      simpa using hsplit
    | plain hnot hfront hroot hcs =>
      subst hroot
      exact splitRoot_of_plain hfront (not_schemeMark_isInfix hfront)
  exact parent?_ofList_eq_none hsplit rfl

/-! ## Chains that end at the root -/

/-- Where the cut finds the root, the chain leads there exactly if the slashes that are left come in
pairs. The induction is on the length of the path; each cut keeps whether their number is even. -/
theorem path_root_iff (hroot : ∀ q, q <+: below → splitRoot (root ++ q) = some (root, q)) :
    (∃ k, Identifier.path parent? (String.ofList (root ++ below)) k = some (String.ofList root)) ↔
      slashesLeft below % 2 = 0 := by
  induction hlen : below.length using Nat.strongRecOn generalizing below with
  | _ n ih =>
    have hsplit := hroot below (List.prefix_refl below)
    have hself : String.ofList (root ++ below) = String.ofList root ↔ below = [] := by
      rw [String.ofList_inj]
      simp
    by_cases hshort : dropTrailingSlash below = []
    · -- Only the root and at most one slash are there, and one slash is not the root.
      rw [exists_path_of_none (parent?_ofList_eq_none hsplit hshort), hself]
      obtain ⟨tail, hbelow, htail⟩ := dropTrailingSlash_cases below
      rw [hshort, List.nil_append] at hbelow
      rcases htail with rfl | ⟨rfl, -⟩
      · rw [hbelow]
        decide
      · rw [hbelow]
        decide
    · have hne : String.ofList (root ++ below) ≠ String.ofList root := by
        intro hsame
        rw [hself.1 hsame] at hshort
        exact hshort rfl
      have hprefix := isPrefix_withoutSegment below
      have hlt := length_withoutSegment_lt hshort
      have hrest := ih _ (hlen ▸ hlt) (fun q hq => hroot q (hq.trans hprefix)) rfl
      rw [exists_path_of_some (parent?_ofList_eq_some hsplit hshort) hne, hrest,
        slashesLeft_container hshort]

/-- Up to the first mark, no container is cut shorter. -/
theorem isPrefix_of_path {front rest : List Char}
    (hmark : splitScheme id.toList = some (front, rest))
    (h : Identifier.path parent? id k = some w) : front <+: w.toList := by
  induction k generalizing w with
  | zero =>
    obtain rfl : id = w := Option.some.inj h
    rw [← append_of_splitScheme hmark]
    exact List.prefix_append front rest
  | succ k ih =>
    obtain ⟨v, hv, hup⟩ := Option.bind_eq_some_iff.1 h
    obtain ⟨rest', hrest⟩ := ih hv
    have hfirst := splitScheme_of_splitScheme hmark rest'
    rw [hrest] at hfirst
    obtain ⟨parent, hparent, rfl⟩ := Option.map_eq_some_iff.1 hup
    rw [String.toList_ofList]
    exact isPrefix_parentChars hfirst hparent

/-- With a mark in the path and no scheme in front, the chain never comes down to the root. -/
theorem not_path_root_of_mark {front : List Char} (hfront : '/' ∉ front)
    (hmark : schemeMark <:+: id.toList) (k : Nat) :
    Identifier.path parent? id k ≠ some (String.ofList (front ++ ['/'])) := by
  intro h
  obtain ⟨⟨upTo, rest⟩, hsplit⟩ : ∃ p, splitScheme id.toList = some p := by
    apply Option.ne_none_iff_exists'.1
    intro hnone
    exact splitScheme_eq_none_iff.1 hnone hmark
  obtain ⟨scheme, rfl⟩ := exists_of_splitScheme hsplit
  have hprefix := isPrefix_of_path hsplit h
  rw [String.toList_ofList] at hprefix
  have hwithin : schemeMark <:+: scheme ++ schemeMark :=
    (List.suffix_append scheme schemeMark).isInfix
  exact not_schemeMark_isInfix hfront (hwithin.trans hprefix.isInfix)

/-- The containers of a text with this path below its root lead to the root: a mark stands in it
only behind a scheme, and the slashes that are left come in pairs. -/
structure LeadsToRoot (cs below : List Char) : Prop where
  /-- The first mark, if there is one, is that of a scheme. -/
  mark : HasScheme cs ∨ ¬schemeMark <:+: cs
  /-- An even number of slashes is left. -/
  slashes : slashesLeft below % 2 = 0

/-- The chain of containers leads to the root exactly in these cases. -/
theorem HasRoot.path_root_iff (h : HasRoot id.toList root below) :
    (∃ k, Identifier.path parent? id k = some (String.ofList root)) ↔
      LeadsToRoot id.toList below := by
  by_cases hmark : HasScheme id.toList ∨ ¬schemeMark <:+: id.toList
  · have hid : id = String.ofList (root ++ below) := by
      rw [← h.append, String.ofList_toList]
    have hiff := Identifier.path_root_iff fun q hq => h.splitRoot_of_isPrefix hmark hq
    rw [← hid] at hiff
    rw [hiff]
    exact ⟨fun hslashes => ⟨hmark, hslashes⟩, LeadsToRoot.slashes⟩
  · rw [not_or, Classical.not_not] at hmark
    cases h with
    | @authority scheme authority hscheme _ hroot hcs =>
      have hfront : HasScheme id.toList := by
        refine ⟨scheme, authority ++ ['/'] ++ below, hscheme, ?_⟩
        rw [hcs, hroot, List.append_assoc]
      exact absurd hfront hmark.1
    | plain _ hfront hroot _ =>
      subst hroot
      constructor
      · rintro ⟨k, hk⟩
        exact absurd hk (not_path_root_of_mark hfront hmark.2 k)
      · intro hleads
        rcases hleads.mark with hscheme | hnone
        · exact absurd hscheme hmark.1
        · exact absurd hmark.2 hnone

end Identifier

namespace Store

open Identifier (path parent? HasRoot LeadsToRoot)

variable {s : Store} {id w : Identifier} {k : Nat}

/-- A walk passes a place where nothing is stored. -/
theorem passedAt_of_absent (hpath : path s.container id k = some w) (hread : s.read w = .ok none) :
    s.PassedAt id k := by
  apply passedAt_of_rulesAt hpath
  rw [answer_rulesAt, hread]

/-- Where nothing on the way stops it, the search reads what the containers of the path lead to. -/
theorem mem_reads_of_parent? (hs : s.container = parent?) (hhorizon : id.length ≤ s.horizon id)
    (hpassed : ∀ k u, path parent? id k = some u → u ≠ w → s.PassedAt id k) :
    w ∈ (s.search true [] id (s.horizon id)).reads ↔ ∃ k, path parent? id k = some w := by
  rw [mem_reads_search]
  constructor
  · rintro ⟨k, -, hw⟩
    have hreached := hw.reached
    rw [hs] at hreached
    exact ⟨k, hreached⟩
  · rintro ⟨k, hk⟩
    have hunrepeated := Identifier.unrepeated_parent? hk
    have hlength : w.length + k ≤ id.length := Identifier.length_add_le_of_path_start hk
    refine ⟨k, by omega, ?_, ?_, ?_⟩
    · rw [hs, hk]
    · rwa [hs]
    · intro j hj
      obtain ⟨u, hu⟩ := Identifier.exists_path_of_le hk (Nat.le_of_lt hj)
      apply hpassed j u hu
      rintro rfl
      exact hunrepeated j k hj (Nat.le_refl k) (hu.trans hk.symm)

/-- The chain of containers of an identifier with a root ends, and the root ends it exactly if the
identifier is not one of those that miss it. In the same cases a search for rules that nothing stops
before the root reads the root. -/
theorem chain_ends_at_root_iff {root below : List Char} (h : HasRoot id.toList root below) :
    parent? (String.ofList root) = none ∧
      (∃ k e, path parent? id k = some e ∧ parent? e = none ∧
        (e = String.ofList root ↔ LeadsToRoot id.toList below)) ∧
      ∀ s : Store, s.container = parent? → id.length ≤ s.horizon id →
        (∀ k u, path parent? id k = some u → u ≠ String.ofList root → s.PassedAt id k) →
        (String.ofList root ∈ (s.search true [] id (s.horizon id)).reads ↔
          LeadsToRoot id.toList below) := by
  refine ⟨h.parent?_root, ?_, ?_⟩
  · obtain ⟨k, e, hk, he⟩ := Identifier.exists_end id
    refine ⟨k, e, hk, he, ?_⟩
    rw [Identifier.end_eq_iff hk he h.parent?_root, h.path_root_iff]
  · intro s hs hhorizon hpassed
    rw [mem_reads_of_parent? hs hhorizon hpassed, h.path_root_iff]

/-- A memory in which nothing but a root is stored. -/
def rootAlone : Memory := Memory.empty.put ⟨"http://h/", ∅, some (Service.rootRules "http://h/")⟩

/-- Behind a scheme a second mark does no harm, nor do empty segments where their slashes pair. -/
theorem paired_slashes_come_down_to_root :
    HasRoot "http://h////a//b://c/".toList "http://h/".toList "///a//b://c/".toList ∧
      LeadsToRoot "http://h////a//b://c/".toList "///a//b://c/".toList ∧
      "http://h/" ∈ (rootAlone.toStore.search true [] "http://h////a//b://c/"
        "http://h////a//b://c/".length).reads := by
  have hroot : HasRoot "http://h////a//b://c/".toList "http://h/".toList
      "///a//b://c/".toList :=
    @HasRoot.authority _ _ _ "http".toList ['h'] (by decide) (by decide) rfl rfl
  have hleads : LeadsToRoot "http://h////a//b://c/".toList "///a//b://c/".toList :=
    ⟨.inl ⟨"http".toList, "h////a//b://c/".toList, by decide, rfl⟩, by decide +kernel⟩
  refine ⟨hroot, hleads, ?_⟩
  apply ((chain_ends_at_root_iff hroot).2.2 rootAlone.toStore rfl (Nat.le_refl _) ?_).2 hleads
  intro k u hu hne
  apply passedAt_of_absent hu
  have hfind := Memory.find?_put_of_ne Memory.empty
    (r := ⟨"http://h/", ∅, some (Service.rootRules "http://h/")⟩) hne
  exact congrArg Except.ok hfind

/-- A mark in the path of an identifier without a scheme leaves it without any container, and three
slashes in front make a chain stop at two. -/
theorem chains_stop_before_root :
    (HasRoot "/a/b://c".toList "/".toList "a/b://c".toList ∧
        Identifier.dropTrailingSlash "a/b://c".toList ≠ [] ∧
        parent? "/a/b://c" = none ∧ ∀ k, path parent? "/a/b://c" k ≠ some "/") ∧
      HasRoot "///a".toList "/".toList "//a".toList ∧
        Identifier.dropTrailingSlash "//a".toList ≠ [] ∧
        parent? "///a" = some "//" ∧ parent? "//" = none ∧
        ∀ k, path parent? "///a" k ≠ some "/" := by
  have hmarked : HasRoot "/a/b://c".toList "/".toList "a/b://c".toList :=
    @HasRoot.plain _ _ _ [] (Identifier.not_hasScheme_slash _) List.not_mem_nil rfl rfl
  have hslashes : HasRoot "///a".toList "/".toList "//a".toList :=
    @HasRoot.plain _ _ _ [] (Identifier.not_hasScheme_slash _) List.not_mem_nil rfl rfl
  refine ⟨⟨hmarked, by decide +kernel, by decide +kernel, ?_⟩, hslashes, by decide +kernel,
    by decide +kernel, by decide +kernel, ?_⟩
  · exact Identifier.not_path_root_of_mark List.not_mem_nil ⟨"/a/b".toList, ['c'], rfl⟩
  · intro k hk
    have hleads : LeadsToRoot "///a".toList "//a".toList := hslashes.path_root_iff.1 ⟨k, hk⟩
    exact absurd hleads.slashes (by decide +kernel)

end Store

end WebAccess
