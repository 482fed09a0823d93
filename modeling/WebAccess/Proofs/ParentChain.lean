import WebAccess.Proofs.ByteOffsets
import WebAccess.Proofs.ConfiguredRoot

/-!
# The containers of a hierarchical identifier

An identifier that is put together from a root and named segments has as its containers the
identifiers with fewer of these segments, down to the root, each of them once and nothing else
(`Identifier.chain_of_segments`). It makes no difference whether a slash stands at its end. One step
of the chain takes one segment away (`Identifier.IsRoot.parent?_segments`); the chain follows by
induction on the segments from behind. The list of containers up to some height is where this chain
begins (`Identifier.Chain.ancestors_eq`).
-/

set_option autoImplicit false

namespace WebAccess

namespace Identifier

/-- The containers above an identifier are those listed, the nearest first, and no others. -/
inductive Chain : Identifier → List Identifier → Prop
  | root {id : Identifier} (h : parent? id = none) : Chain id []
  | up {id parent : Identifier} {above : List Identifier} (h : parent? id = some parent)
    (rest : Chain parent above) : Chain id (parent :: above)

/-- What stands in front of the segments of an identifier and ends with a slash. -/
inductive IsRoot : Identifier → Prop
  /-- A text without slashes and a slash. -/
  | plain {front : String} (h : '/' ∉ front.toList) : IsRoot (front ++ "/")
  /-- A scheme and an authority without slashes, and a slash. -/
  | authority {scheme authority : String} (hscheme : '/' ∉ scheme.toList)
    (hauthority : '/' ∉ authority.toList) : IsRoot (scheme ++ "://" ++ authority ++ "/")

variable {id root : Identifier}

/-- The list of the containers up to some height is where the chain begins. -/
theorem Chain.ancestors_eq {above : List Identifier} (h : Chain id above) (limit : Nat) :
    ancestors limit id = above.take limit := by
  induction h generalizing limit with
  | root h => cases limit <;> simp [ancestors, h]
  | up h rest ih => cases limit <;> simp [ancestors, h, ih]

/-- The containers of every identifier come to an end. -/
theorem exists_chain (id : Identifier) : ∃ above, Chain id above := by
  induction hlen : id.length using Nat.strongRecOn generalizing id with
  | _ n ih =>
    cases hp : parent? id with
    | none => exact ⟨[], .root hp⟩
    | some p =>
      obtain ⟨above, habove⟩ := ih p.length (hlen ▸ length_lt_of_parent? hp) p rfl
      exact ⟨p :: above, .up hp habove⟩

/-! ## Roots -/

variable {cs : List Char}

/-- Where no root is found there is no container. -/
theorem parent?_ofList_of_splitRoot_eq_none (h : splitRoot cs = none) :
    parent? (String.ofList cs) = none := by
  rw [parent?, String.toList_ofList, parentChars, h]
  rfl

/-- A root is cut off behind its last character. -/
theorem IsRoot.splitRoot_eq (h : IsRoot root) : splitRoot root.toList = some (root.toList, []) := by
  cases h with
  | plain hfront =>
    rw [String.toList_append]
    exact splitRoot_of_plain hfront (not_schemeMark_isInfix hfront)
  | authority hscheme hauthority =>
    have hsplit := @splitRoot_of_authority [] _ _ hscheme hauthority
    simpa [schemeMark] using hsplit

/-- A root ends with a slash. -/
theorem IsRoot.getLast?_eq (h : IsRoot root) : root.toList.getLast? = some '/' := by
  cases h with
  | plain =>
    rw [String.toList_append]
    exact List.getLast?_concat
  | authority =>
    rw [String.toList_append]
    exact List.getLast?_concat

/-- With two slashes in a text there is no third one behind a mark. -/
theorem splitRoot_two_slashes {front : List Char} (hfront : '/' ∉ front) :
    splitRoot (front ++ ['/', '/']) = none ∨
      splitRoot (front ++ ['/', '/']) = some (front ++ ['/'], ['/']) := by
  cases hscheme : splitScheme (front ++ ['/', '/']) with
  | none => exact .inr (splitRoot_of_plain hfront (splitScheme_eq_none_iff.1 hscheme))
  | some p =>
    obtain ⟨marked, rest⟩ := p
    obtain ⟨scheme, rfl⟩ := exists_of_splitScheme hscheme
    -- The mark holds both slashes of the text, so none is left for what stands behind it.
    have hcount := congrArg (List.count '/') (append_of_splitScheme hscheme)
    simp only [schemeMark, List.count_append, List.count_eq_zero_of_not_mem hfront] at hcount
    have hrest : '/' ∉ rest := by
      rw [← List.count_eq_zero]
      simp at hcount
      omega
    left
    rw [splitRoot, hscheme, Option.map_eq_none_iff]
    exact splitSlash_of_not_mem hrest

/-- A root has no container, and a second slash behind it makes no difference. -/
theorem IsRoot.parent?_eq_none (h : IsRoot root) {tail : String} (htail : tail = "" ∨ tail = "/") :
    parent? (root ++ tail) = none := by
  rw [← String.ofList_toList (s := root ++ tail), String.toList_append]
  rcases htail with rfl | rfl
  · rw [show "".toList = [] from rfl, List.append_nil]
    exact parent?_ofList_eq_none h.splitRoot_eq rfl
  · cases h with
    | @plain front hfront =>
      have hid : (front ++ "/").toList ++ "/".toList = front.toList ++ ['/', '/'] := by simp
      rw [hid]
      rcases splitRoot_two_slashes hfront with hnone | hsome
      · exact parent?_ofList_of_splitRoot_eq_none hnone
      · exact parent?_ofList_eq_none hsome rfl
    | authority hscheme hauthority =>
      have hsplit := @splitRoot_of_authority ['/'] _ _ hscheme hauthority
      have hnone := parent?_ofList_eq_none hsplit rfl
      simpa [schemeMark] using hnone

/-! ## Segments -/

variable {segment : List Char} {top : List Char}

/-- A slash behind named segments does not count. -/
theorem Extends.parent?_concat_slash (h : Extends top cs) (htop : splitRoot top = some (top, [])) :
    parent? (String.ofList (cs ++ ['/'])) = parent? (String.ofList cs) := by
  have hlast := h.getLast?_ne
  have hmark : schemeMark <:+: cs ++ ['/'] → schemeMark <:+: top := fun hmark =>
    h.schemeMark_isInfix (schemeMark_isInfix_concat hlast hmark)
  obtain ⟨more, rfl, hmore⟩ := h.exists_append
  rw [List.getLast?_append_of_ne_nil _ hmore] at hlast
  have hsplit := splitRoot_append htop h.schemeMark_isInfix
  rw [List.append_assoc] at hmark
  have hslashed := splitRoot_append htop hmark
  have hdrop : dropTrailingSlash more = more := if_neg hlast
  have hdropped : dropTrailingSlash (more ++ ['/']) = more := by simp [dropTrailingSlash]
  rw [List.nil_append] at hsplit hslashed
  rw [List.append_assoc, parent?_ofList_eq_some hsplit (by rwa [hdrop]),
    parent?_ofList_eq_some hslashed (by rwa [hdropped]), hdrop, hdropped]

/-- The container of a root with segments is the root with the segments but the last. -/
theorem IsRoot.parent?_segments (h : IsRoot root) {segments : List String} {segment : String}
    (hsegments : ∀ s ∈ segments ++ [segment], s ≠ "" ∧ '/' ∉ s.toList) {tail : String}
    (htail : tail = "" ∨ tail = "/") :
    parent? (root ++ "/".intercalate (segments ++ [segment]) ++ tail) =
      some (root ++ "/".intercalate segments) := by
  have hextends := @extends_intercalate root (segments ++ [segment]) (by simp) hsegments
  have hslashed := hextends.parent?_concat_slash h.splitRoot_eq
  rw [String.ofList_append, String.ofList_toList] at hslashed
  obtain ⟨hnamed, hslash⟩ := hsegments segment (by simp)
  have htailed : parent? (root ++ "/".intercalate (segments ++ [segment]) ++ tail) =
      parent? (root ++ "/".intercalate (segments ++ [segment])) := by
    rcases htail with rfl | rfl
    · rw [String.append_empty]
    · exact hslashed
  rw [htailed]
  by_cases hne : segments = []
  · subst hne
    have hchild := parent?_child hslash (by simpa using hnamed) h.splitRoot_eq h.getLast?_eq
    rcases hchild with ⟨-, hparent⟩ | ⟨before, hbelow, -⟩
    · rw [String.ofList_append, String.ofList_toList, String.ofList_toList] at hparent
      rw [List.nil_append, String.intercalate_singleton, hparent, String.intercalate_nil,
        String.append_empty]
    · exact absurd hbelow (by simp)
  · have hshorter := @extends_intercalate root segments hne
      fun s hs => hsegments s (List.mem_append_left _ hs)
    have hparent := hshorter.parent?_deeper hslash (by simpa using hnamed) h.splitRoot_eq
    rw [String.ofList_append, String.ofList_toList] at hparent
    rw [String.intercalate_append_of_ne_nil hne (List.cons_ne_nil _ _),
      String.intercalate_singleton, ← hparent]
    congr 1
    apply String.ext
    simp

/-- The root with the first segments, from all but one of them down to none. -/
def containersOf (root : Identifier) (segments : List String) : List Identifier :=
  (List.range segments.length).reverse.map fun k => root ++ "/".intercalate (segments.take k)

/-- One more segment at the end adds the identifier without it as the nearest container. -/
theorem containersOf_append (root : Identifier) (segments : List String) (segment : String) :
    containersOf root (segments ++ [segment]) =
      (root ++ "/".intercalate segments) :: containersOf root segments := by
  rw [containersOf, List.length_append, List.length_singleton, List.range_succ,
    List.reverse_concat, List.map_cons, List.take_left, containersOf]
  congr 1
  apply List.map_congr_left
  intro k hk
  have hlt : k < segments.length := by simpa using hk
  rw [List.take_append_of_le_length (Nat.le_of_lt hlt)]

/-- The chain of containers of a root with segments, by induction on the segments from behind. -/
theorem IsRoot.chain (h : IsRoot root) {segments : List String}
    (hsegments : ∀ s ∈ segments, s ≠ "" ∧ '/' ∉ s.toList) {tail : String}
    (htail : tail = "" ∨ tail = "/") :
    Chain (root ++ "/".intercalate segments ++ tail) (containersOf root segments) := by
  induction segments using List.reverseRecOn generalizing tail with
  | nil =>
    rw [String.intercalate_nil, String.append_empty]
    exact .root (h.parent?_eq_none htail)
  | append_singleton segments segment ih =>
    have hrest := ih (fun s hs => hsegments s (List.mem_append_left _ hs)) (.inl rfl)
    rw [String.append_empty] at hrest
    rw [containersOf_append]
    exact .up (h.parent?_segments hsegments htail) hrest

/-- An identifier is its container and something more. -/
theorem exists_append_of_parent? {parent : Identifier} (h : parent? id = some parent) :
    ∃ rest, rest ≠ "" ∧ id = parent ++ rest := by
  obtain ⟨rest, hrest⟩ := isPrefix_of_parent? h
  have hid : id = parent ++ String.ofList rest := by
    rw [← String.toList_inj, String.toList_append, String.toList_ofList, hrest]
  refine ⟨String.ofList rest, ?_, hid⟩
  intro hempty
  have hshorter := length_lt_of_parent? h
  rw [hid, hempty, String.append_empty] at hshorter
  exact absurd hshorter (Nat.lt_irrefl _)

/-- The containers of a root with named segments, with or without a slash behind them, are exactly
the root with fewer of the segments, down to the root, which has none; listing them up to some
height lists the first of these. Whatever an identifier is, its container is found without a cut
inside of a character and is a shorter beginning of it, and so the containers come to an end. -/
theorem chain_of_segments :
    (∀ root segments tail, IsRoot root → (∀ s ∈ segments, s ≠ "" ∧ '/' ∉ s.toList) →
      (tail = "" ∨ tail = "/") →
        Chain (root ++ "/".intercalate segments ++ tail) (containersOf root segments) ∧
          (∀ limit, ancestors limit (root ++ "/".intercalate segments ++ tail) =
            (containersOf root segments).take limit) ∧
          parent? root = none) ∧
      ∀ id, parentByOffsets id = some (parent? id) ∧
        (∀ parent, parent? id = some parent → ∃ rest, rest ≠ "" ∧ id = parent ++ rest) ∧
          ∃ above, Chain id above := by
  refine ⟨?_, ?_⟩
  · intro root segments tail hroot hsegments htail
    have hchain := hroot.chain hsegments htail
    refine ⟨hchain, hchain.ancestors_eq, ?_⟩
    have hnone := hroot.parent?_eq_none (.inl rfl)
    rwa [String.append_empty] at hnone
  · intro id
    exact ⟨parentByOffsets_eq id, fun parent => exists_append_of_parent?, exists_chain id⟩

/-- A colon or a longer character in a segment changes nothing. -/
theorem chain_below_host :
    (IsRoot "http://h/" ∧ ∀ s ∈ ["a:b", "é"], s ≠ "" ∧ '/' ∉ s.toList) ∧
      Chain "http://h/a:b/é/" ["http://h/a:b", "http://h/"] ∧
      parent? "http://h/" = none ∧
      parentByOffsets "http://h/a:b/é/" = some (some "http://h/a:b") := by
  have hroot : IsRoot "http://h/" :=
    @IsRoot.authority "http" "h" (by decide +kernel) (by decide +kernel)
  have hsegments : ∀ s ∈ ["a:b", "é"], s ≠ "" ∧ '/' ∉ s.toList := by decide +kernel
  obtain ⟨hchain, -, hnone⟩ :=
    chain_of_segments.1 "http://h/" ["a:b", "é"] "/" hroot hsegments (.inr rfl)
  have hid : "http://h/" ++ "/".intercalate ["a:b", "é"] ++ "/" = "http://h/a:b/é/" := by
    decide +kernel
  have habove : containersOf "http://h/" ["a:b", "é"] = ["http://h/a:b", "http://h/"] := by
    decide +kernel
  rw [hid, habove] at hchain
  refine ⟨⟨hroot, hsegments⟩, hchain, hnone, ?_⟩
  rw [(chain_of_segments.2 "http://h/a:b/é/").1]
  decide +kernel

end Identifier

end WebAccess
