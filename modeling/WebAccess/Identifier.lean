/-!
# Identifiers

A resource is named by a hierarchical identifier: a root, then path segments separated by `/`. The
container of a resource is found by cutting the path, so it is always shorter than the resource
(`length_lt_of_parent?`); the document of a group is found by cutting fragment and query.
-/

set_option autoImplicit false

namespace WebAccess

/-- The name of a resource. -/
abbrev Identifier := String

namespace Identifier

/-- The text up to and with its first slash, and the rest. -/
def splitSlash : List Char → Option (List Char × List Char)
  | [] => none
  | c :: cs => if c = '/' then some ([c], cs) else (splitSlash cs).map fun p => (c :: p.1, p.2)

/-- The text up to and with its first `://`, and the rest. -/
def splitScheme : List Char → Option (List Char × List Char)
  | [] => none
  | c :: cs =>
    if c = ':' ∧ cs.take 2 = ['/', '/'] then some ([':', '/', '/'], cs.drop 2)
    else (splitScheme cs).map fun p => (c :: p.1, p.2)

/-- The root of an identifier and the path below it. The root ends with the slash that follows the
authority, or with the first slash where there is no authority. -/
def splitRoot (cs : List Char) : Option (List Char × List Char) :=
  match splitScheme cs with
  | some (scheme, rest) => (splitSlash rest).map fun p => (scheme ++ p.1, p.2)
  | none => splitSlash cs

/-- The text without one slash at its end. -/
def dropTrailingSlash (cs : List Char) : List Char :=
  if cs.getLast? = some '/' then cs.dropLast else cs

/-- The text before its last slash; nothing if it has none. -/
def beforeLastSlash (cs : List Char) : List Char :=
  ((cs.reverse.dropWhile (· ≠ '/')).drop 1).reverse

/-- The container of an identifier given by its characters. -/
def parentChars (cs : List Char) : Option (List Char) :=
  match splitRoot cs with
  | none => none
  | some (root, path) =>
    match dropTrailingSlash path with
    | [] => none
    | path => some (root ++ beforeLastSlash path)

/-- The container of an identifier: its path without the last segment. A slash at the end does not
count, and the root has no container. -/
def parent? (id : Identifier) : Option Identifier :=
  (parentChars id.toList).map String.ofList

/-- The document that a group reference points into: the reference without its fragment, then
without its query, then without one slash at the end. -/
def groupDocument (group : String) : Identifier :=
  String.ofList
    (dropTrailingSlash ((group.toList.takeWhile (· ≠ '#')).takeWhile (· ≠ '?')))

/-- The containers above an identifier, nearest first, at most `limit` of them. -/
def ancestors : Nat → Identifier → List Identifier
  | 0, _ => []
  | limit + 1, id =>
    match parent? id with
    | none => []
    | some p => p :: ancestors limit p

/-- The two parts of a text that is cut behind its first slash make up the text. -/
theorem append_of_splitSlash {cs front rest : List Char}
    (h : splitSlash cs = some (front, rest)) : front ++ rest = cs := by
  induction cs generalizing front with
  | nil => simp [splitSlash] at h
  | cons c cs ih =>
    by_cases hc : c = '/'
    · rw [splitSlash, if_pos hc] at h
      cases h
      rfl
    · rw [splitSlash, if_neg hc, Option.map_eq_some_iff] at h
      obtain ⟨⟨a, b⟩, hs, hp⟩ := h
      cases hp
      rw [List.cons_append, ih hs]

/-- The two parts of a text that is cut behind its first `://` make up the text. -/
theorem append_of_splitScheme {cs front rest : List Char}
    (h : splitScheme cs = some (front, rest)) : front ++ rest = cs := by
  induction cs generalizing front with
  | nil => simp [splitScheme] at h
  | cons c cs ih =>
    by_cases hc : c = ':' ∧ cs.take 2 = ['/', '/']
    · rw [splitScheme, if_pos hc] at h
      cases h
      rw [← List.take_append_drop 2 cs, hc.1, hc.2]
      simp
    · rw [splitScheme, if_neg hc, Option.map_eq_some_iff] at h
      obtain ⟨⟨a, b⟩, hs, hp⟩ := h
      cases hp
      rw [List.cons_append, ih hs]

/-- The root and the path below it make up the identifier. -/
theorem append_of_splitRoot {cs root path : List Char}
    (h : splitRoot cs = some (root, path)) : root ++ path = cs := by
  unfold splitRoot at h
  cases hs : splitScheme cs with
  | none =>
    rw [hs] at h
    exact append_of_splitSlash h
  | some p =>
    rw [hs, Option.map_eq_some_iff] at h
    obtain ⟨⟨a, b⟩, hr, hp⟩ := h
    cases hp
    rw [List.append_assoc, append_of_splitSlash hr, append_of_splitScheme hs]

/-- Taking one slash off the end of a text leaves a beginning of the text. -/
theorem isPrefix_dropTrailingSlash (cs : List Char) : dropTrailingSlash cs <+: cs := by
  unfold dropTrailingSlash
  split
  · exact List.dropLast_prefix cs
  · exact List.prefix_refl cs

/-- What stands in front of the last slash is a beginning of the text. -/
theorem isPrefix_beforeLastSlash (cs : List Char) : beforeLastSlash cs <+: cs := by
  rw [beforeLastSlash, ← List.reverse_suffix, List.reverse_reverse]
  exact (List.drop_suffix _ _).trans (List.dropWhile_suffix _)

/-- What stands in front of the last slash is shorter than a text that is not empty. -/
theorem length_beforeLastSlash_lt {cs : List Char} (h : cs ≠ []) :
    (beforeLastSlash cs).length < cs.length := by
  have hpos : 0 < cs.length := List.length_pos_iff.2 h
  have hle : (cs.reverse.dropWhile (· ≠ '/')).length ≤ cs.reverse.length :=
    (List.dropWhile_suffix _).length_le
  rw [List.length_reverse] at hle
  rw [beforeLastSlash, List.length_reverse, List.length_drop]
  omega

/-- The container of an identifier is a part of it from the front on, and shorter. -/
theorem isPrefix_of_parentChars {cs parent : List Char} (h : parentChars cs = some parent) :
    parent <+: cs ∧ parent.length < cs.length := by
  unfold parentChars at h
  split at h
  · simp at h
  · next root path hroot =>
    split at h
    · simp at h
    · next hne =>
      cases h
      obtain ⟨hp, hl⟩ : beforeLastSlash (dropTrailingSlash path) <+: path ∧
          (beforeLastSlash (dropTrailingSlash path)).length < path.length :=
        ⟨(isPrefix_beforeLastSlash _).trans (isPrefix_dropTrailingSlash _),
          Nat.lt_of_lt_of_le (length_beforeLastSlash_lt hne)
            (isPrefix_dropTrailingSlash path).length_le⟩
      rw [← append_of_splitRoot hroot]
      exact ⟨(List.prefix_append_right_inj root).2 hp, by simpa using hl⟩

/-- Each container is shorter than what it contains. -/
theorem length_lt_of_parent? {id parent : Identifier} (h : parent? id = some parent) :
    parent.length < id.length := by
  unfold parent? at h
  rw [Option.map_eq_some_iff] at h
  obtain ⟨cs, hcs, rfl⟩ := h
  simpa [String.length_toList] using (isPrefix_of_parentChars hcs).2

end Identifier

end WebAccess
