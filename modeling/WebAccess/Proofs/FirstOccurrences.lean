import Mathlib.Data.List.Induction
import Mathlib.Data.List.Nodup
import WebAccess.Rdf.Graph

/-!
# First occurrences

Of a sequence with repetitions, `List.eraseDups` keeps every member where it stands first. What a
further member at the end does to the result decides the rest (`Rdf.eraseDups_concat`): it is passed
over if it occurred before, and otherwise it is kept at the end. Hence it makes no difference to
what follows, to a selection of the members, or to a map of them, whether repetitions were erased
before.
The subjects of a graph in first-seen order are first occurrences as well (`Rdf.Graph.subjects_eq`).
-/

set_option autoImplicit false

namespace WebAccess.Rdf

variable {α β : Type} [DecidableEq α] [DecidableEq β]

/-- A further member is kept behind the first occurrences exactly if it has not occurred before. -/
theorem eraseDups_concat (l : List α) (x : α) :
    (l ++ [x]).eraseDups = if x ∈ l then l.eraseDups else l.eraseDups ++ [x] := by
  rw [List.eraseDups_append]
  by_cases h : x ∈ l
  · simp [List.removeAll, h]
  · simp [List.removeAll, h, List.eraseDups_cons]

/-- Among first occurrences none stands twice. -/
theorem nodup_eraseDups (l : List α) : l.eraseDups.Nodup := by
  induction l using List.reverseRecOn with
  | nil => exact List.nodup_nil
  | append_singleton l x ih =>
    rw [eraseDups_concat]
    split_ifs with h
    · exact ih
    · have hnew : x ∉ l.eraseDups := mt List.mem_eraseDups.1 h
      rw [← List.concat_eq_append]
      exact ih.concat hnew

/-- A list without repetitions consists of first occurrences. -/
theorem eraseDups_of_nodup {l : List α} (h : l.Nodup) : l.eraseDups = l := by
  induction l using List.reverseRecOn with
  | nil => rfl
  | append_singleton l x ih =>
    obtain ⟨hl, -, hdisjoint⟩ := List.nodup_append.1 h
    have hnew : x ∉ l := fun hx => hdisjoint x hx x List.mem_cons_self rfl
    rw [eraseDups_concat, if_neg hnew, ih hl]

/-- What follows is kept or passed over regardless of repetitions in front of it. -/
theorem eraseDups_eraseDups_append (l m : List α) :
    (l.eraseDups ++ m).eraseDups = (l ++ m).eraseDups := by
  induction m using List.reverseRecOn with
  | nil => rw [List.append_nil, List.append_nil, eraseDups_of_nodup (nodup_eraseDups l)]
  | append_singleton m x ih =>
    simp only [← List.append_assoc, eraseDups_concat, ih, List.mem_append, List.mem_eraseDups]

/-- The first occurrences that have a property are the first occurrences among the members that have
it. -/
theorem filter_eraseDups (p : α → Bool) (l : List α) :
    l.eraseDups.filter p = (l.filter p).eraseDups := by
  induction l using List.reverseRecOn with
  | nil => rfl
  | append_singleton l x ih =>
    rw [eraseDups_concat, List.filter_append]
    by_cases hp : p x = true
    · have hx : [x].filter p = [x] := List.filter_cons_of_pos hp
      have hmem : x ∈ l.filter p ↔ x ∈ l := by rw [List.mem_filter, and_iff_left hp]
      rw [hx, eraseDups_concat, ← ih]
      simp only [hmem]
      split_ifs
      · rfl
      · rw [List.filter_append, hx]
    · have hx : [x].filter p = [] := List.filter_cons_of_neg hp
      rw [hx, List.append_nil, ← ih]
      split_ifs
      · rfl
      · rw [List.filter_append, hx, List.append_nil]

/-- Dropping repetitions before a list is mapped makes no difference to the first occurrences behind
it. -/
theorem eraseDups_map_eraseDups (f : α → β) (l : List α) :
    (l.eraseDups.map f).eraseDups = (l.map f).eraseDups := by
  induction l using List.reverseRecOn with
  | nil => rfl
  | append_singleton l x ih =>
    rw [List.map_append, List.map_singleton, eraseDups_concat, eraseDups_concat, ← ih]
    by_cases h : x ∈ l
    · rw [if_pos h, if_pos (List.mem_map_of_mem h)]
    · rw [if_neg h, List.map_append, List.map_singleton, eraseDups_concat]
      simp only [List.mem_map, List.mem_eraseDups]

namespace Graph

/-- The members of a list at their first places are its first occurrences. -/
theorem firstSeen_eq (l : List Term) : firstSeen l = l.eraseDups := by
  induction l with
  | nil => rfl
  | cons s ss ih =>
    rw [firstSeen, List.eraseDups_cons, ← filter_eraseDups, ih]
    congr 2
    funext u
    simp [Bool.beq_eq_decide_eq]

/-- The subjects of a graph are the first occurrences among the subjects of its triples. -/
theorem subjects_eq (g : Graph) : g.subjects = (g.triples.map (·.subject)).eraseDups :=
  firstSeen_eq _

end Graph

end WebAccess.Rdf
