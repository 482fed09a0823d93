import WebAccess.Identifier

/-!
# Cutting an identifier

The container of an identifier is found by four cuts: after the first `://`, after the first slash
behind it, before a slash at the end, and before the last slash. Each is described here by how the
text is put together. The root that is found depends on what stands before it only if there is a
scheme in front (`Identifier.splitRoot_of_authority`) or no mark anywhere
(`Identifier.splitRoot_of_plain`); else the text up to the first mark is never cut off
(`Identifier.isPrefix_parentChars`).
-/

set_option autoImplicit false

namespace WebAccess

namespace Identifier

/-- The three characters that stand between a scheme and an authority. -/
def schemeMark : List Char := [':', '/', '/']

variable {cs front rest : List Char}

/-! ## After the first slash -/

/-- A text is cut behind a slash before which there is none. -/
theorem splitSlash_append (h : '/' ∉ front) :
    splitSlash (front ++ '/' :: rest) = some (front ++ ['/'], rest) := by
  induction front with
  | nil => rfl
  | cons c front ih =>
    rw [List.mem_cons, not_or] at h
    rw [List.cons_append, splitSlash, if_neg (Ne.symm h.1), ih h.2]
    rfl

/-- What is cut off a text ends with its only slash. -/
theorem exists_of_splitSlash (h : splitSlash cs = some (front, rest)) :
    ∃ before, '/' ∉ before ∧ front = before ++ ['/'] := by
  induction cs generalizing front with
  | nil => simp [splitSlash] at h
  | cons c cs ih =>
    by_cases hc : c = '/'
    · rw [splitSlash, if_pos hc] at h
      cases h
      exact ⟨[], List.not_mem_nil, by rw [hc]; rfl⟩
    · rw [splitSlash, if_neg hc, Option.map_eq_some_iff] at h
      obtain ⟨⟨a, b⟩, hs, hp⟩ := h
      cases hp
      obtain ⟨before, hbefore, rfl⟩ := ih hs
      refine ⟨c :: before, ?_, rfl⟩
      rw [List.mem_cons, not_or]
      exact ⟨Ne.symm hc, hbefore⟩

/-- What comes later does not change where the first slash is. -/
theorem splitSlash_of_splitSlash (h : splitSlash cs = some (front, rest)) (more : List Char) :
    splitSlash (cs ++ more) = some (front, rest ++ more) := by
  obtain ⟨before, hbefore, rfl⟩ := exists_of_splitSlash h
  rw [← append_of_splitSlash h, List.append_assoc, List.append_assoc]
  exact splitSlash_append hbefore

/-! ## After the first scheme mark -/

/-- The first two characters of a text are slashes exactly if it begins with two slashes. -/
theorem take_two_eq_iff : cs.take 2 = ['/', '/'] ↔ ['/', '/'] <+: cs := by
  rw [List.prefix_iff_eq_take, eq_comm]
  rfl

/-- The cut behind a scheme is made at a place exactly if `://` begins there. -/
theorem starts_with_mark_iff {c : Char} :
    (c = ':' ∧ cs.take 2 = ['/', '/']) ↔ schemeMark <+: c :: cs := by
  rw [take_two_eq_iff, schemeMark, List.cons_prefix_cons, eq_comm]

/-- A text is not cut behind a scheme exactly if it has no `://`. -/
theorem splitScheme_eq_none_iff : splitScheme cs = none ↔ ¬schemeMark <:+: cs := by
  induction cs with
  | nil => simp [splitScheme, schemeMark]
  | cons c cs ih =>
    rw [splitScheme, List.infix_cons_iff, ← starts_with_mark_iff]
    by_cases h : c = ':' ∧ cs.take 2 = ['/', '/']
    · simp [h]
    · simp [h, ih]

/-- Behind a text without slashes the first mark is the one that follows. -/
theorem splitScheme_append (h : '/' ∉ front) :
    splitScheme (front ++ schemeMark ++ rest) = some (front ++ schemeMark, rest) := by
  induction front with
  | nil => rfl
  | cons c front ih =>
    rw [List.mem_cons, not_or] at h
    have hnot : ¬(c = ':' ∧ (front ++ schemeMark ++ rest).take 2 = ['/', '/']) := by
      rintro ⟨-, htake⟩
      cases front with
      | nil => simp [schemeMark] at htake
      | cons d front =>
        have hd : d = '/' := by simpa using congrArg List.head? htake
        exact h.2 (hd ▸ List.mem_cons_self)
    rw [List.cons_append, List.cons_append, splitScheme, if_neg hnot, ih h.2]
    rfl

/-- What is cut off as the scheme ends with `://`. -/
theorem exists_of_splitScheme (h : splitScheme cs = some (front, rest)) :
    ∃ s, front = s ++ schemeMark := by
  induction cs generalizing front with
  | nil => simp [splitScheme] at h
  | cons c cs ih =>
    by_cases hc : c = ':' ∧ cs.take 2 = ['/', '/']
    · rw [splitScheme, if_pos hc] at h
      cases h
      exact ⟨[], rfl⟩
    · rw [splitScheme, if_neg hc, Option.map_eq_some_iff] at h
      obtain ⟨⟨a, b⟩, hs, hp⟩ := h
      cases hp
      obtain ⟨s, rfl⟩ := ih hs
      exact ⟨c :: s, rfl⟩

/-- The first mark stays the first, whatever comes after it. -/
theorem splitScheme_of_splitScheme (h : splitScheme cs = some (front, rest)) (rest' : List Char) :
    splitScheme (front ++ rest') = some (front, rest') := by
  induction cs generalizing front with
  | nil => simp [splitScheme] at h
  | cons c cs ih =>
    have hcs := append_of_splitScheme h
    by_cases hc : c = ':' ∧ cs.take 2 = ['/', '/']
    · rw [splitScheme, if_pos hc] at h
      cases h
      rfl
    · rw [splitScheme, if_neg hc, Option.map_eq_some_iff] at h
      obtain ⟨⟨a, b⟩, hs, hp⟩ := h
      cases hp
      obtain ⟨s, rfl⟩ := exists_of_splitScheme hs
      -- The two characters after `c` belong to `s ++ schemeMark`, whatever follows that.
      have hlen : 2 ≤ (s ++ schemeMark).length := by simp [schemeMark]
      have hnot : ¬(c = ':' ∧ (s ++ schemeMark ++ rest').take 2 = ['/', '/']) := by
        rw [← append_of_splitScheme hs, List.take_append_of_le_length hlen] at hc
        rwa [List.take_append_of_le_length hlen]
      rw [List.cons_append, splitScheme, if_neg hnot, ih hs]
      rfl

/-- A text without slashes completes no mark. -/
theorem schemeMark_isInfix_append (h : '/' ∉ rest) (hmark : schemeMark <:+: cs ++ rest) :
    schemeMark <:+: cs := by
  obtain ⟨a, b, hab⟩ := hmark
  rcases List.append_eq_append_iff.1 hab with ⟨t, hcs, -⟩ | ⟨t, hends, hrest⟩
  · exact ⟨a, t, hcs.symm⟩
  · -- The mark would end with a slash of `rest`.
    rcases List.eq_nil_or_concat t with rfl | ⟨t, c, rfl⟩
    · exact ⟨a, [], by rw [List.append_nil, hends, List.append_nil]⟩
    · have hmark : a ++ schemeMark = (a ++ [':', '/']) ++ ['/'] := by simp [schemeMark]
      rw [hmark, List.concat_eq_append, ← List.append_assoc] at hends
      obtain rfl : '/' = c := List.singleton_inj.1 (List.append_inj' hends rfl).2
      exact absurd (by simp [hrest]) h

/-- A slash completes no mark, unless there is one before it. -/
theorem schemeMark_isInfix_concat (hend : cs.getLast? ≠ some '/')
    (hmark : schemeMark <:+: cs ++ ['/']) : schemeMark <:+: cs := by
  rcases List.infix_concat_iff.1 hmark with ⟨before, hends⟩ | hwithin
  · -- The last but one character of the mark would be the end of the text.
    have hcut : before ++ [':', '/'] ++ ['/'] = cs ++ ['/'] := by
      rw [← hends]
      simp [schemeMark]
    rw [← List.append_cancel_right hcut] at hend
    exact absurd (by simp) hend
  · exact hwithin

/-! ## The root -/

/-- Where an authority is named, the root goes up to the slash after it. -/
theorem splitRoot_of_authority {scheme authority : List Char} (hs : '/' ∉ scheme)
    (ha : '/' ∉ authority) :
    splitRoot (scheme ++ schemeMark ++ (authority ++ '/' :: rest)) =
      some (scheme ++ schemeMark ++ (authority ++ ['/']), rest) := by
  rw [splitRoot, splitScheme_append hs]
  simp only [splitSlash_append ha, Option.map_some]

/-- Where no mark stands anywhere, the root goes up to the first slash. -/
theorem splitRoot_of_plain (hf : '/' ∉ front) (hmark : ¬schemeMark <:+: front ++ '/' :: rest) :
    splitRoot (front ++ '/' :: rest) = some (front ++ ['/'], rest) := by
  rw [splitRoot, splitScheme_eq_none_iff.2 hmark]
  exact splitSlash_append hf

/-- What comes later does not change the root, as long as it does not bring the first mark. -/
theorem splitRoot_append {root path more : List Char} (h : splitRoot cs = some (root, path))
    (hmark : schemeMark <:+: cs ++ more → schemeMark <:+: cs) :
    splitRoot (cs ++ more) = some (root, path ++ more) := by
  unfold splitRoot at h ⊢
  cases hscheme : splitScheme cs with
  | none =>
    rw [hscheme] at h
    have hnone := splitScheme_eq_none_iff.2 fun hm => splitScheme_eq_none_iff.1 hscheme (hmark hm)
    rw [hnone]
    exact splitSlash_of_splitSlash h more
  | some p =>
    obtain ⟨upTo, rest⟩ := p
    rw [hscheme, Option.map_eq_some_iff] at h
    obtain ⟨⟨a, b⟩, hslash, hp⟩ := h
    cases hp
    have hfirst := splitScheme_of_splitScheme hscheme (rest ++ more)
    rw [← List.append_assoc, append_of_splitScheme hscheme] at hfirst
    simp only [hfirst, splitSlash_of_splitSlash hslash more, Option.map_some]

/-- A mark is part of every root that is found behind it, and of every container. -/
theorem isPrefix_parentChars {parent : List Char} (hmark : splitScheme cs = some (front, rest))
    (h : parentChars cs = some parent) : front <+: parent := by
  rw [parentChars, splitRoot, hmark] at h
  cases hslash : splitSlash rest with
  | none => simp [hslash] at h
  | some p =>
    simp only [hslash, Option.map_some] at h
    split at h
    · cases h
    · cases h
      rw [List.append_assoc]
      exact List.prefix_append front _

/-! ## The end of a path -/

/-- One slash at the end is dropped, or the path does not end with one and stays as it is. -/
theorem dropTrailingSlash_cases (cs : List Char) :
    ∃ tail, cs = dropTrailingSlash cs ++ tail ∧
      (tail = ['/'] ∨ tail = [] ∧ ∀ before, dropTrailingSlash cs ≠ before ++ ['/']) := by
  unfold dropTrailingSlash
  split
  · next h =>
    obtain ⟨before, rfl⟩ := List.getLast?_eq_some_iff.1 h
    exact ⟨['/'], by rw [List.dropLast_concat], .inl rfl⟩
  · next h =>
    refine ⟨[], (List.append_nil cs).symm, .inr ⟨rfl, ?_⟩⟩
    intro before hcs
    exact h (List.getLast?_eq_some_iff.2 ⟨before, hcs⟩)

/-- A path has a last slash, and what stands before it is kept, or it has none. -/
theorem beforeLastSlash_cases (cs : List Char) :
    (∃ segment, '/' ∉ segment ∧ cs = beforeLastSlash cs ++ '/' :: segment) ∨
      '/' ∉ cs ∧ beforeLastSlash cs = [] := by
  -- The text after the last slash, and the rest from this slash on, both read from the end.
  obtain ⟨after, hafter⟩ : ∃ after, cs.reverse.takeWhile (· ≠ '/') = after := ⟨_, rfl⟩
  have hcs := List.takeWhile_append_dropWhile (p := (· ≠ '/')) (l := cs.reverse)
  have hnot : '/' ∉ after := by
    intro h
    have hall := List.all_takeWhile (p := (· ≠ '/')) (l := cs.reverse)
    rw [hafter] at hall
    simpa using List.all_eq_true.1 hall '/' h
  rw [hafter] at hcs
  cases hdrop : cs.reverse.dropWhile (· ≠ '/') with
  | nil =>
    rw [hdrop, List.append_nil] at hcs
    refine .inr ⟨?_, ?_⟩
    · rwa [hcs, List.mem_reverse] at hnot
    · rw [beforeLastSlash, hdrop]
      rfl
  | cons c before =>
    have hc : c = '/' := by
      have hhead := List.head?_dropWhile_not (· ≠ '/') cs.reverse
      rw [hdrop] at hhead
      simpa using hhead
    refine .inl ⟨after.reverse, ?_, ?_⟩
    · rwa [List.mem_reverse]
    · calc cs = (after ++ c :: before).reverse := by rw [← hdrop, hcs, List.reverse_reverse]
        _ = before.reverse ++ '/' :: after.reverse := by simp [hc]
        _ = beforeLastSlash cs ++ '/' :: after.reverse := by
          rw [beforeLastSlash, hdrop, List.drop_one, List.tail_cons]

/-- In front of a slash and a segment stands what is before the last slash. -/
theorem beforeLastSlash_append {segment : List Char} (h : '/' ∉ segment) :
    beforeLastSlash (cs ++ '/' :: segment) = cs := by
  have hreverse : (cs ++ '/' :: segment).reverse = segment.reverse ++ '/' :: cs.reverse := by simp
  have hdrop : (segment.reverse ++ '/' :: cs.reverse).dropWhile (· ≠ '/') = '/' :: cs.reverse := by
    rw [List.dropWhile_append_of_pos]
    · simp
    · intro c hc
      have hne : c ≠ '/' := fun hslash => h (hslash ▸ List.mem_reverse.1 hc)
      simpa using hne
  rw [beforeLastSlash, hreverse, hdrop, List.drop_one, List.tail_cons, List.reverse_reverse]

/-- Nothing stands before the last slash of a text without slashes. -/
theorem beforeLastSlash_of_segment {segment : List Char} (h : '/' ∉ segment) :
    beforeLastSlash segment = [] := by
  rcases beforeLastSlash_cases segment with ⟨after, -, hslash⟩ | ⟨-, hnil⟩
  · rw [hslash] at h
    exact absurd (by simp) h
  · exact hnil

/-- A text with a named segment at its end does not end with a slash. -/
theorem getLast?_append_segment {segment : List Char} (h : '/' ∉ segment) (hne : segment ≠ [])
    (cs : List Char) : (cs ++ segment).getLast? ≠ some '/' := by
  obtain ⟨front, c, rfl⟩ := (List.eq_nil_or_concat segment).resolve_left hne
  have hc : c ≠ '/' := fun hslash => h (by simp [hslash])
  simpa [← List.append_assoc] using hc

/-- A text with a named segment at its end has no slash at its end to lose. -/
theorem dropTrailingSlash_append_segment {segment : List Char} (h : '/' ∉ segment)
    (hne : segment ≠ []) (cs : List Char) : dropTrailingSlash (cs ++ segment) = cs ++ segment :=
  if_neg (getLast?_append_segment h hne cs)

/-! ## The container -/

variable {root path : List Char}

/-- What has its root and at most one slash has no container. -/
theorem parent?_ofList_eq_none (h : splitRoot cs = some (root, path))
    (hpath : dropTrailingSlash path = []) : parent? (String.ofList cs) = none := by
  rw [parent?, String.toList_ofList, parentChars, h]
  simp only [hpath, Option.map_none]

/-- The container of anything else is its path without the last segment, below the same root. -/
theorem parent?_ofList_eq_some (h : splitRoot cs = some (root, path))
    (hpath : dropTrailingSlash path ≠ []) :
    parent? (String.ofList cs) =
      some (String.ofList (root ++ beforeLastSlash (dropTrailingSlash path))) := by
  rw [parent?, String.toList_ofList, parentChars, h]
  cases hdrop : dropTrailingSlash path with
  | nil => exact absurd hdrop hpath
  | cons c rest => simp only [hdrop, Option.map_some]

/-- The container of an identifier is a beginning of it. -/
theorem isPrefix_of_parent? {id parent : Identifier} (h : parent? id = some parent) :
    parent.toList <+: id.toList := by
  obtain ⟨cs, hcs, rfl⟩ := Option.map_eq_some_iff.1 h
  rw [String.toList_ofList]
  exact (isPrefix_of_parentChars hcs).1

/-- A path without its last segment is a beginning of the path. -/
theorem isPrefix_withoutSegment (path : List Char) :
    beforeLastSlash (dropTrailingSlash path) <+: path :=
  (isPrefix_beforeLastSlash _).trans (isPrefix_dropTrailingSlash path)

/-- A path without its last segment is shorter, if it has a segment. -/
theorem length_withoutSegment_lt (hpath : dropTrailingSlash path ≠ []) :
    (beforeLastSlash (dropTrailingSlash path)).length < path.length :=
  Nat.lt_of_lt_of_le (length_beforeLastSlash_lt hpath) (isPrefix_dropTrailingSlash path).length_le

end Identifier

end WebAccess
