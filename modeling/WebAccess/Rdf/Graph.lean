import WebAccess.Rdf.Term

/-!
# Graphs

A graph lists triples in the order in which they were first given. Adding a triple that is there
changes nothing, so a graph built from the empty one never repeats a triple; a graph that was read
from a document is taken as it stands.
-/

set_option autoImplicit false

namespace WebAccess.Rdf

/-- Triples in first-seen order. -/
structure Graph where
  /-- The triples. -/
  triples : List Triple
deriving DecidableEq, Repr

namespace Graph

/-- The graph without triples. -/
def empty : Graph := ⟨[]⟩

instance : EmptyCollection Graph := ⟨empty⟩

instance : Inhabited Graph := ⟨empty⟩

/-- The graph with the triple `t`, which goes to the end unless it is there. -/
def insert (g : Graph) (t : Triple) : Graph :=
  if t ∈ g.triples then g else ⟨g.triples ++ [t]⟩

/-- The graph with the triple of the given parts. -/
def add (g : Graph) (s : Term) (p : String) (o : Term) : Graph :=
  g.insert ⟨s, p, o⟩

/-- The graph with all triples of a list, in the order of the list. -/
def extend (g : Graph) (ts : List Triple) : Graph :=
  ts.foldl insert g

/-- The graph of the triples of a list. -/
def ofList (ts : List Triple) : Graph :=
  empty.extend ts

/-- The number of triples. -/
def size (g : Graph) : Nat :=
  g.triples.length

/-- True if the graph holds no triple. -/
def isEmpty (g : Graph) : Bool :=
  g.triples.isEmpty

/-- True if the graph states the triple. -/
def contains (g : Graph) (t : Triple) : Bool :=
  t ∈ g.triples

/-- The triples about one subject, in their order. -/
def about (g : Graph) (s : Term) : List Triple :=
  g.triples.filter fun t => t.subject = s

/-- The objects that the graph gives for a subject and a predicate, in their order. -/
def objects (g : Graph) (s : Term) (p : String) : List Term :=
  ((g.about s).filter fun t => t.predicate = p).map (·.object)

/-- The members of a list at their first places. -/
def firstSeen : List Term → List Term
  | [] => []
  | s :: ss => s :: (firstSeen ss).filter fun u => u ≠ s

/-- The subjects of the graph in first-seen order. -/
def subjects (g : Graph) : List Term :=
  firstSeen (g.triples.map (·.subject))

/-- The triples of the graph grouped by subject, in first-seen order of the subjects. -/
def bySubject (g : Graph) : List (Term × List Triple) :=
  g.subjects.map fun s => (s, g.about s)

/-- A graph contains a triple exactly if it is listed among its triples. -/
@[simp] theorem contains_iff {g : Graph} {t : Triple} : g.contains t = true ↔ t ∈ g.triples := by
  simp [contains]

/-- Inserting a triple adds this triple and no other. -/
@[simp] theorem mem_insert {g : Graph} {t u : Triple} :
    u ∈ (g.insert t).triples ↔ u = t ∨ u ∈ g.triples := by
  unfold insert
  by_cases h : t ∈ g.triples
  · rw [if_pos h]
    exact ⟨Or.inr, fun hu => hu.elim (fun e => e ▸ h) id⟩
  · rw [if_neg h, List.mem_append, List.mem_singleton]
    exact or_comm

/-- Inserting a triple into a graph that lists none twice gives a graph that lists none twice. -/
theorem nodup_insert {g : Graph} {t : Triple} (h : g.triples.Nodup) :
    (g.insert t).triples.Nodup := by
  unfold insert
  by_cases ht : t ∈ g.triples
  · rw [if_pos ht]
    exact h
  · rw [if_neg ht]
    refine List.nodup_append.2 ⟨h, by simp, fun u hu v hv huv => ht ?_⟩
    rw [← List.mem_singleton.1 hv, ← huv]
    exact hu

/-- A list without its repetitions has the same members. -/
theorem mem_firstSeen {s : Term} {l : List Term} : s ∈ firstSeen l ↔ s ∈ l := by
  induction l with
  | nil => simp [firstSeen]
  | cons u us ih =>
    by_cases h : s = u
    · simp [firstSeen, h]
    · simp [firstSeen, h, ih]

/-- A list without its repetitions has no member twice. -/
theorem nodup_firstSeen (l : List Term) : (firstSeen l).Nodup := by
  induction l with
  | nil => simp [firstSeen]
  | cons u us ih =>
    rw [firstSeen, List.nodup_cons]
    exact ⟨by simp, ih.filter _⟩

end Graph

end WebAccess.Rdf
