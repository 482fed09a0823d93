import Mathlib.Data.Finset.Card
import WebAccess.Proofs.FirstOccurrences

/-!
# How a graph is built

A graph is built by steps that give it triples, one or several at a time, and that may start it anew
from a collection. Whatever the step, the graph afterwards holds the first occurrences in what it
held, unless it starts anew, followed by what the step gives (`Rdf.Graph.triples_next`). Since
repetitions that were passed over earlier make no difference later on, only the sequence of all
triples that were given counts, from the last collection on (`Rdf.Graph.triples_run`).

Main statement: the triples of a graph are the first occurrences in what was given, and so are the
objects that it has for a subject and a predicate (`Rdf.Graph.first_occurrences_of_given`).
-/

set_option autoImplicit false

namespace WebAccess.Rdf.Graph

/-- One step of building a graph. -/
inductive Step where
  | insert (t : Triple)
  /-- A triple is added by its parts. -/
  | add (s : Term) (p : String) (o : Term)
  /-- A triple is added by its parts, and the graph is handed on to the next link of a chain. -/
  | chain (s : Term) (p : String) (o : Term)
  | extend (ts : List Triple)
  /-- The graph is replaced by one that is collected from a list. -/
  | collect (ts : List Triple)

/-- The graph after a step. -/
def next (g : Graph) : Step → Graph
  | .insert t => g.insert t
  | .add s p o => g.add s p o
  | .chain s p o => g.add s p o
  | .extend ts => g.extend ts
  | .collect ts => ofList ts

/-- The graph after a sequence of steps. -/
def run (g : Graph) (steps : List Step) : Graph := steps.foldl next g

/-- The triples that a step gives. -/
def Step.given : Step → List Triple
  | .insert t => [t]
  | .add s p o | .chain s p o => [⟨s, p, o⟩]
  | .extend ts | .collect ts => ts

/-- Nothing is left of what was given before the step. -/
def Step.startsAnew : Step → Bool
  | .collect _ => true
  | .insert _ | .add .. | .chain .. | .extend _ => false

/-- The steps from the last collection on, or all steps if there is none. -/
def sinceCollection : List Step → List Step
  | [] => []
  | step :: steps => if steps.any Step.startsAnew then sinceCollection steps else step :: steps

/-- The triples given since the last collection, its own included. -/
def given (steps : List Step) : List Triple := (sinceCollection steps).flatMap Step.given

variable {g : Graph}

/-! ## One step -/

/-- After an insertion a graph holds the first occurrences in its triples followed by the inserted
one. -/
theorem triples_insert (h : g.triples.Nodup) (t : Triple) :
    (g.insert t).triples = (g.triples ++ [t]).eraseDups := by
  rw [eraseDups_concat, eraseDups_of_nodup h, insert]
  split_ifs <;> rfl

/-- After an extension a graph holds the first occurrences in its triples followed by the given
ones. -/
theorem triples_extend (h : g.triples.Nodup) (ts : List Triple) :
    (g.extend ts).triples = (g.triples ++ ts).eraseDups := by
  induction ts generalizing g with
  | nil => rw [List.append_nil, eraseDups_of_nodup h, extend, List.foldl_nil]
  | cons t ts ih =>
    have hrest := ih (nodup_insert (t := t) h)
    rw [triples_insert h, eraseDups_eraseDups_append] at hrest
    simpa [extend] using hrest

/-- A graph that is made from a list holds the first occurrences in the list. -/
theorem triples_ofList (ts : List Triple) : (ofList ts).triples = ts.eraseDups :=
  triples_extend List.nodup_nil ts

/-- After a step the graph holds the first occurrences in what it held, unless the step starts anew,
followed by what the step gives. -/
theorem triples_next (h : g.triples.Nodup) (step : Step) :
    (g.next step).triples =
      ((if step.startsAnew then [] else g.triples) ++ step.given).eraseDups := by
  cases step with
  | insert t => exact triples_insert h t
  | add s p o => exact triples_insert h ⟨s, p, o⟩
  | chain s p o => exact triples_insert h ⟨s, p, o⟩
  | extend ts => exact triples_extend h ts
  | collect ts => exact triples_ofList ts

/-! ## Runs -/

/-- After a further step the steps since the last collection are those before with it, or it alone
if it is a collection. -/
theorem sinceCollection_concat (steps : List Step) (step : Step) :
    sinceCollection (steps ++ [step]) =
      if step.startsAnew then [step] else sinceCollection steps ++ [step] := by
  induction steps with
  | nil => simp [sinceCollection]
  | cons first steps ih =>
    rw [List.cons_append, sinceCollection, ih, sinceCollection, List.any_append]
    by_cases hstep : step.startsAnew = true
    · simp [hstep]
    · by_cases hany : steps.any Step.startsAnew = true
      · simp [hstep, hany]
      · simp [hstep, hany]

/-- After a further step what was given is what was given before, unless the step starts anew,
followed by what it gives. -/
theorem given_concat (steps : List Step) (step : Step) :
    given (steps ++ [step]) = (if step.startsAnew then [] else given steps) ++ step.given := by
  rw [given, sinceCollection_concat]
  split_ifs
  · simp
  · simp [given]

/-- A graph that is built from the empty one holds the first occurrences in what was given. -/
theorem triples_run (steps : List Step) : (empty.run steps).triples = (given steps).eraseDups := by
  induction steps using List.reverseRecOn with
  | nil => rfl
  | append_singleton steps step ih =>
    have hdistinct : (empty.run steps).triples.Nodup := by
      rw [ih]
      exact nodup_eraseDups _
    have hstep := triples_next hdistinct step
    rw [run, List.foldl_append, List.foldl_cons, List.foldl_nil, ← run, hstep, given_concat, ih]
    split_ifs
    · rfl
    · exact eraseDups_eraseDups_append _ _

/-! ## Queries -/

/-- The triples with one subject and one predicate differ in their objects, so the objects are first
occurrences where the triples are. -/
theorem objects_of_first_occurrences {ts : List Triple} (h : g.triples = ts.eraseDups) (s : Term)
    (p : String) :
    g.objects s p =
      ((ts.filter fun t => t.subject = s ∧ t.predicate = p).map (·.object)).eraseDups := by
  have hselected : (g.about s).filter (fun t => t.predicate = p) =
      (ts.filter fun t => t.subject = s ∧ t.predicate = p).eraseDups := by
    rw [about, List.filter_filter, h, filter_eraseDups]
    congr 2
    funext t
    rw [Bool.decide_and, Bool.and_comm]
  have hdistinct : (g.objects s p).Nodup := by
    rw [objects, hselected]
    apply List.Nodup.map_on _ (nodup_eraseDups _)
    intro t ht u hu hobject
    simp only [List.mem_eraseDups, List.mem_filter, decide_eq_true_eq] at ht hu
    obtain ⟨-, hts, htp⟩ := ht
    obtain ⟨-, hus, hup⟩ := hu
    cases t
    cases u
    simp_all
  rw [← eraseDups_of_nodup hdistinct, objects, hselected, eraseDups_map_eraseDups]

/-- After any steps from the empty graph: no triple stands twice, and the triples are those given
since the last collection, each where it was given first. So there are as many as different triples
were given, exactly the triples given are stated, and the objects for a subject and a predicate are
those given for them, each where it was given first. -/
theorem first_occurrences_of_given (steps : List Step) :
    let g := empty.run steps
    g.triples.Nodup ∧ g.triples = (given steps).eraseDups ∧
      g.size = (given steps).toFinset.card ∧ (∀ t, g.contains t = true ↔ t ∈ given steps) ∧
      ∀ s p, g.objects s p =
        (((given steps).filter fun t => t.subject = s ∧ t.predicate = p).map
          (·.object)).eraseDups := by
  intro g
  have htriples : g.triples = (given steps).eraseDups := triples_run steps
  have hdistinct : g.triples.Nodup := by
    rw [htriples]
    exact nodup_eraseDups _
  have hmem : ∀ t, t ∈ g.triples ↔ t ∈ given steps := by
    intro t
    rw [htriples, List.mem_eraseDups]
  refine ⟨hdistinct, htriples, ?_, ?_, objects_of_first_occurrences htriples⟩
  · have hsame : g.triples.toFinset = (given steps).toFinset := by
      ext t
      rw [List.mem_toFinset, List.mem_toFinset, hmem]
    rw [size, ← hsame, List.toFinset_card_of_nodup hdistinct]
  · intro t
    rw [contains_iff, hmem]

/-- What was given before a collection does not count, nor does a second time. -/
example :
    let a : Triple := ⟨.iri "a", "p", .literal "1"⟩
    let b : Triple := ⟨.iri "b", "p", .literal "1"⟩
    let c : Triple := ⟨.iri "a", "p", .literal "2"⟩
    (empty.run [.insert c, .collect [b, a, b], .extend [a, c], .add (.iri "b") "p" (.literal "1")]
      ).triples = [b, a, c] := by
  decide

end WebAccess.Rdf.Graph
