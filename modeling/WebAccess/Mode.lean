import WebAccess.Vocabulary

/-!
# Access modes

The four capabilities that rules grant, and sets of them. A set says of each mode whether it is in
it, so sets with the same members are equal and every set is written in one order: the order of
declaration.
-/

set_option autoImplicit false

namespace WebAccess

/-- A capability. -/
inductive Mode where
  /-- Read the resource. -/
  | read
  /-- Replace or delete the resource. -/
  | write
  /-- Add to the resource without removing anything. -/
  | append
  /-- Read and change the rules of the resource. -/
  | control
deriving DecidableEq, Repr

namespace Mode

/-- All modes, in the order of declaration. -/
def all : List Mode := [read, write, append, control]

/-- The vocabulary term of a mode. -/
def term : Mode → Vocab
  | read => .read
  | write => .write
  | append => .append
  | control => .control

/-- The IRI of a mode. -/
def iri (m : Mode) : String := m.term.iri

/-- The mode with the given IRI. -/
def ofIri? (s : String) : Option Mode :=
  all.find? fun m => m.iri == s

/-- The name of a mode in messages. -/
def name : Mode → String
  | read => "Read"
  | write => "Write"
  | append => "Append"
  | control => "Control"

/-- The word for a mode in documents. -/
def word : Mode → String
  | read => "read"
  | write => "write"
  | append => "append"
  | control => "control"

/-- Every mode is in the list of all modes. -/
theorem mem_all (m : Mode) : m ∈ all := by
  cases m <;> decide

/-- The IRI of a mode is read as this mode. -/
@[simp] theorem ofIri?_iri (m : Mode) : ofIri? m.iri = some m := by
  cases m <;> decide

/-- A text is read as a mode exactly if it is the IRI of this mode. -/
theorem ofIri?_eq_some_iff {s : String} {m : Mode} : ofIri? s = some m ↔ m.iri = s := by
  constructor
  · intro h
    simpa using List.find?_some h
  · rintro rfl
    exact ofIri?_iri m

end Mode

/-- A set of modes. -/
structure ModeSet where
  /-- Reading is in the set. -/
  read : Bool
  /-- Writing is in the set. -/
  write : Bool
  /-- Appending is in the set. -/
  append : Bool
  /-- Control is in the set. -/
  control : Bool
deriving DecidableEq, Repr

namespace ModeSet

/-- True if the mode is in the set. -/
def contains (s : ModeSet) : Mode → Bool
  | .read => s.read
  | .write => s.write
  | .append => s.append
  | .control => s.control

/-- The set of the modes that satisfy `p`. -/
def ofPred (p : Mode → Bool) : ModeSet :=
  ⟨p .read, p .write, p .append, p .control⟩

/-- The set of the modes in a list. -/
def ofList (l : List Mode) : ModeSet :=
  ofPred fun m => decide (m ∈ l)

/-- The members in the order of declaration. -/
def toList (s : ModeSet) : List Mode :=
  Mode.all.filter s.contains

/-- The set without members. -/
def empty : ModeSet := ofPred fun _ => false

/-- The set of all modes. -/
def all : ModeSet := ofPred fun _ => true

/-- The modes that are in one of two sets. -/
def union (s t : ModeSet) : ModeSet := ofPred fun m => s.contains m || t.contains m

/-- The modes that are in both of two sets. -/
def inter (s t : ModeSet) : ModeSet := ofPred fun m => s.contains m && t.contains m

/-- True if the set has no members. -/
def isEmpty (s : ModeSet) : Bool := s == empty

instance : EmptyCollection ModeSet := ⟨empty⟩

instance : Union ModeSet := ⟨union⟩

instance : Inter ModeSet := ⟨inter⟩

instance : Membership Mode ModeSet := ⟨fun s m => s.contains m = true⟩

instance (m : Mode) (s : ModeSet) : Decidable (m ∈ s) :=
  inferInstanceAs (Decidable (s.contains m = true))

/-- The set of the modes with a property contains a mode exactly if it has the property. -/
@[simp] theorem contains_ofPred (p : Mode → Bool) (m : Mode) : (ofPred p).contains m = p m := by
  cases m <;> rfl

/-- Membership in a set of modes is what `contains` answers. -/
theorem mem_iff {m : Mode} {s : ModeSet} : m ∈ s ↔ s.contains m = true := Iff.rfl

/-- The set of the modes in a list has the members of the list. -/
@[simp] theorem mem_ofList {m : Mode} {l : List Mode} : m ∈ ofList l ↔ m ∈ l := by
  simp [mem_iff, ofList]

/-- A set of modes is listed with all its members. -/
@[simp] theorem mem_toList {m : Mode} {s : ModeSet} : m ∈ s.toList ↔ m ∈ s := by
  simp [toList, mem_iff, Mode.mem_all]

/-- No mode is in the empty set. -/
@[simp] theorem not_mem_empty {m : Mode} : ¬m ∈ (∅ : ModeSet) := by
  cases m <;> exact Bool.false_ne_true

/-- Every mode is in the set of all modes. -/
@[simp] theorem mem_all {m : Mode} : m ∈ all := by
  cases m <;> rfl

/-- A mode is in a union if it is in one of the two sets. -/
@[simp] theorem mem_union {m : Mode} {s t : ModeSet} : m ∈ s ∪ t ↔ m ∈ s ∨ m ∈ t := by
  show (ofPred _).contains m = true ↔ _
  simp [mem_iff]

/-- A mode is in an intersection if it is in both sets. -/
@[simp] theorem mem_inter {m : Mode} {s t : ModeSet} : m ∈ s ∩ t ↔ m ∈ s ∧ m ∈ t := by
  show (ofPred _).contains m = true ↔ _
  simp [mem_iff]

/-- Two sets with the same members are equal. -/
theorem ext {s t : ModeSet} (h : ∀ m, m ∈ s ↔ m ∈ t) : s = t := by
  have hc : ∀ m, s.contains m = t.contains m := fun m => Bool.eq_iff_iff.2 (h m)
  obtain ⟨sr, sw, sa, sc⟩ := s
  obtain ⟨tr, tw, ta, tc⟩ := t
  have h1 : sr = tr := hc .read
  have h2 : sw = tw := hc .write
  have h3 : sa = ta := hc .append
  have h4 : sc = tc := hc .control
  subst h1 h2 h3 h4
  rfl

end ModeSet

end WebAccess
