/-!
# Pieces of a text

A text, of characters or of bytes, is cut at every occurrence of a mark. No piece holds the mark
(`not_mem_of_mem_pieces`), and the pieces joined by it give the text back (`intercalate_pieces`).
-/

set_option autoImplicit false

namespace WebAccess.Text

variable {α : Type} [DecidableEq α]

/-- The pieces of a text between the occurrences of `mark`; there is always at least one. -/
def pieces (mark : α) : List α → List (List α)
  | [] => [[]]
  | c :: cs => if c = mark then [] :: pieces mark cs else (pieces mark cs).modifyHead (c :: ·)

/-- There is always a first piece. -/
theorem exists_pieces_eq_cons (mark : α) (cs : List α) :
    ∃ piece more, pieces mark cs = piece :: more := by
  induction cs with
  | nil => exact ⟨[], [], rfl⟩
  | cons c cs ih =>
    obtain ⟨piece, more, h⟩ := ih
    by_cases hc : c = mark
    · exact ⟨[], piece :: more, by rw [pieces, if_pos hc, h]⟩
    · exact ⟨c :: piece, more, by rw [pieces, if_neg hc, h, List.modifyHead_cons]⟩

/-- No piece holds the mark at which the text was cut. -/
theorem not_mem_of_mem_pieces {mark : α} {cs piece : List α} (h : piece ∈ pieces mark cs) :
    ¬mark ∈ piece := by
  induction cs generalizing piece with
  | nil => simp_all [pieces]
  | cons c cs ih =>
    obtain ⟨first, more, hp⟩ := exists_pieces_eq_cons mark cs
    by_cases hc : c = mark
    · rw [pieces, if_pos hc, List.mem_cons] at h
      rcases h with rfl | h
      · simp
      · exact ih h
    · rw [pieces, if_neg hc, hp, List.modifyHead_cons, List.mem_cons] at h
      rcases h with rfl | h
      · have hfirst : ¬mark ∈ first := ih (by simp [hp])
        simp [hfirst, Ne.symm hc]
      · exact ih (by simp [hp, h])

/-- The pieces joined by the mark at which the text was cut give the text back. -/
theorem intercalate_pieces (mark : α) (cs : List α) :
    [mark].intercalate (pieces mark cs) = cs := by
  induction cs with
  | nil => rfl
  | cons c cs ih =>
    obtain ⟨first, more, hp⟩ := exists_pieces_eq_cons mark cs
    rw [hp] at ih
    by_cases hc : c = mark
    · rw [pieces, if_pos hc, hp, List.intercalate_cons_cons, ih, hc]
      rfl
    · rw [pieces, if_neg hc, hp, List.modifyHead_cons]
      cases more with
      | nil =>
        rw [List.intercalate_singleton] at ih ⊢
        rw [ih]
      | cons second more =>
        rw [List.intercalate_cons_cons] at ih ⊢
        simp [← ih]

end WebAccess.Text
