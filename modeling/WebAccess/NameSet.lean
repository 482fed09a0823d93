/-!
# Sets of names

A finite set of texts (agents, groups, identifiers), kept as the list of its members in rising order
without repetition. The order is the one of code points, so two sets with the same members are equal
as values (`NameSet.ext`) and are always written in the same way.
-/

set_option autoImplicit false

namespace WebAccess

/-- A finite set of texts. -/
structure NameSet where
  /-- The members in rising order. -/
  toList : List String
  /-- No member stands before one that is not greater. -/
  sorted : toList.Pairwise (· < ·)
deriving DecidableEq

namespace NameSet

/-- Puts `x` at its place in a rising list, unless it is there. -/
def place (x : String) : List String → List String
  | [] => [x]
  | y :: ys => if x < y then x :: y :: ys else if x = y then y :: ys else y :: place x ys

/-- Placing a name in a list adds this name and no other. -/
theorem mem_place {x z : String} {l : List String} : z ∈ place x l ↔ z = x ∨ z ∈ l := by
  induction l with
  | nil => simp [place]
  | cons y ys ih =>
    by_cases hlt : x < y
    · simp [place, hlt]
    · by_cases heq : x = y
      · simp [place, heq]
      · simp only [place, hlt, heq, if_false, List.mem_cons, ih]
        exact or_left_comm

/-- A rising list of names still rises once a name has been placed in it. -/
theorem pairwise_place {x : String} {l : List String} (h : l.Pairwise (· < ·)) :
    (place x l).Pairwise (· < ·) := by
  induction l with
  | nil => simp [place]
  | cons y ys ih =>
    have hy := List.pairwise_cons.1 h
    by_cases hlt : x < y
    · rw [place, if_pos hlt]
      refine List.pairwise_cons.2 ⟨fun z hz => ?_, h⟩
      rcases List.mem_cons.1 hz with rfl | hz
      · exact hlt
      · exact String.lt_trans hlt (hy.1 z hz)
    · by_cases heq : x = y
      · rw [place, if_neg hlt, if_pos heq]
        exact h
      · rw [place, if_neg hlt, if_neg heq]
        refine List.pairwise_cons.2 ⟨fun z hz => ?_, ih hy.2⟩
        rcases mem_place.1 hz with rfl | hz
        · rcases String.le_total z y with hle | hle
          · exact absurd (String.le_antisymm hle (String.not_lt.1 hlt)) heq
          · by_cases hyz : y < z
            · exact hyz
            · exact absurd (String.le_antisymm (String.not_lt.1 hyz) hle) heq
        · exact hy.1 z hz

/-- The set without members. -/
def empty : NameSet :=
  ⟨[], List.Pairwise.nil⟩

instance : EmptyCollection NameSet := ⟨empty⟩

instance : Inhabited NameSet := ⟨empty⟩

/-- The set with the further member `x`. -/
def insert (x : String) (s : NameSet) : NameSet :=
  ⟨place x s.toList, pairwise_place s.sorted⟩

/-- The set of the texts in a list. -/
def ofList (l : List String) : NameSet :=
  l.foldr insert empty

instance : Membership String NameSet := ⟨fun s x => x ∈ s.toList⟩

instance (x : String) (s : NameSet) : Decidable (x ∈ s) :=
  inferInstanceAs (Decidable (x ∈ s.toList))

/-- A set of names is listed with all its members. -/
@[simp] theorem mem_toList {x : String} {s : NameSet} : x ∈ s.toList ↔ x ∈ s := Iff.rfl

/-- No name is in the empty set. -/
@[simp] theorem not_mem_empty {x : String} : ¬x ∈ (∅ : NameSet) := by
  intro h
  cases h

/-- Inserting a name adds this name and no other. -/
@[simp] theorem mem_insert {x y : String} {s : NameSet} : y ∈ s.insert x ↔ y = x ∨ y ∈ s :=
  mem_place

/-- The set of the names in a list has the members of the list. -/
@[simp] theorem mem_ofList {x : String} {l : List String} : x ∈ ofList l ↔ x ∈ l := by
  induction l with
  | nil => exact ⟨fun h => absurd h not_mem_empty, fun h => absurd h List.not_mem_nil⟩
  | cons y ys ih => rw [ofList, List.foldr_cons, mem_insert, ← ofList, ih, List.mem_cons]

/-- A rising list is determined by its members. -/
theorem eq_of_pairwise_of_mem_iff {l m : List String} (hl : l.Pairwise (· < ·))
    (hm : m.Pairwise (· < ·)) (h : ∀ x, x ∈ l ↔ x ∈ m) : l = m := by
  induction l generalizing m with
  | nil =>
    cases m with
    | nil => rfl
    | cons y ys => exact absurd ((h y).2 (List.mem_cons_self ..)) (by simp)
  | cons x xs ih =>
    cases m with
    | nil => exact absurd ((h x).1 (List.mem_cons_self ..)) (by simp)
    | cons y ys =>
      have hx := List.pairwise_cons.1 hl
      have hy := List.pairwise_cons.1 hm
      have hxy : x = y := by
        rcases List.mem_cons.1 ((h x).1 (List.mem_cons_self ..)) with e | hmem
        · exact e
        · rcases List.mem_cons.1 ((h y).2 (List.mem_cons_self ..)) with e | hmem'
          · exact e.symm
          · exact absurd (hx.1 y hmem') (String.lt_asymm (hy.1 x hmem))
      subst hxy
      congr 1
      refine ih hx.2 hy.2 fun z => ⟨fun hz => ?_, fun hz => ?_⟩
      · rcases List.mem_cons.1 ((h z).1 (List.mem_cons_of_mem _ hz)) with rfl | hz'
        · exact absurd (hx.1 z hz) (String.lt_irrefl z)
        · exact hz'
      · rcases List.mem_cons.1 ((h z).2 (List.mem_cons_of_mem _ hz)) with rfl | hz'
        · exact absurd (hy.1 z hz) (String.lt_irrefl z)
        · exact hz'

/-- Two sets with the same members are equal. -/
theorem ext {s t : NameSet} (h : ∀ x, x ∈ s ↔ x ∈ t) : s = t := by
  obtain ⟨l, hl⟩ := s
  obtain ⟨m, hm⟩ := t
  congr 1
  exact eq_of_pairwise_of_mem_iff hl hm h

end NameSet

end WebAccess
