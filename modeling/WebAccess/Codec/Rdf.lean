import WebAccess.Document.Decode
import WebAccess.Rdf.Graph

/-!
# Terms, triples and graphs in documents

A term is a map that names its kind under `type` and its text under `value`, in any order and
among other keys, or the sequence of the two, where the kind must be a text. A triple has its three
parts as fields, and a graph lists its triples.
-/

set_option autoImplicit false

namespace WebAccess.Rdf

open WebAccess.Document

/-- The kinds of terms, by their words. -/
def Term.kinds : List (String × (String → Term)) :=
  [("iri", .iri), ("blank", .blank), ("literal", .literal)]

/-- What is known of a term after some of its keys. -/
inductive Term.Draft where
  /-- Nothing. -/
  | blank
  /-- Its kind. -/
  | kind (make : String → Term)
  /-- Its value, still as a tree. -/
  | value (t : Tree)
  /-- All of it. -/
  | term (t : Term)

/-- The draft after one more key. A value that comes before the kind is kept as it is, so all of
it must be readable. -/
def Term.Draft.step (origin : Origin) : Term.Draft → String × Tree → Decoded Term.Draft
  | draft, (key, t) =>
    if key = "type" then
      match draft with
      | .blank => return .kind (← asWord origin Term.kinds t)
      | .value kept => do
        let make ← asWord origin Term.kinds t
        return .term (make (← asText kept))
      | .kind _ | .term _ => .error (.duplicateField key)
    else if key = "value" then
      match draft with
      | .blank => if t.isSound true then .ok (.value t) else .error .malformed
      | .kind make => return .term (make (← asText t))
      | .value _ | .term _ => .error (.duplicateField key)
    else do
      skip t
      return draft

/-- The term of a draft. -/
def Term.Draft.complete : Term.Draft → Decoded Term
  | .term t => .ok t
  | .kind _ => .error (.missingField "value")
  | .blank | .value _ => .error (.missingField "type")

/-- Takes a tree as a term. -/
def Term.decode (origin : Origin) : Tree → Decoded Term
  | .map entries ending => do
    let draft ← entries.foldlM (Term.Draft.step origin) .blank
    finish ending
    draft.complete
  | .seq (kind :: value :: rest) ending => do
    let make ← asPlainWord Term.kinds kind
    let s ← asText value
    if rest.isEmpty then finish ending else .error .malformed
    return make s
  | .seq [kind] _ => do
    let _ ← asPlainWord Term.kinds kind
    .error .malformed
  | .seq [] _ => .error .malformed
  | t => .error (mismatch t "adjacently tagged enum Term")

/-- A term as a tree. -/
def Term.toTree : Term → Tree
  | .iri s => .record [("type", .text "iri"), ("value", .text s)]
  | .blank s => .record [("type", .text "blank"), ("value", .text s)]
  | .literal s => .record [("type", .text "literal"), ("value", .text s)]

/-- What is given of a triple. -/
structure Triple.Draft where
  /-- The subject. -/
  subject : Option Term
  /-- The predicate. -/
  predicate : Option String
  /-- The object. -/
  object : Option Term

/-- Triples as records. -/
def Triple.record (origin : Origin) : Record Triple.Draft Triple where
  title := "struct Triple"
  strict := false
  fields := [
    .of "subject" false (·.subject) (fun d t => { d with subject := some t }) (Term.decode origin),
    .of "predicate" false (·.predicate) (fun d s => { d with predicate := some s }) asText,
    .of "object" false (·.object) (fun d t => { d with object := some t }) (Term.decode origin)]
  start := ⟨none, none, none⟩
  complete d := do
    let subject ← require "subject" d.subject
    let predicate ← require "predicate" d.predicate
    let object ← require "object" d.object
    return ⟨subject, predicate, object⟩

/-- Takes a tree as a triple. -/
def Triple.decode (origin : Origin) (t : Tree) : Decoded Triple :=
  (Triple.record origin).decode origin t

/-- A triple as a tree. -/
def Triple.toTree (t : Triple) : Tree :=
  .record [("subject", t.subject.toTree), ("predicate", .text t.predicate),
    ("object", t.object.toTree)]

/-- Graphs as records; the triples are kept as they are listed, repetitions included. -/
def Graph.record (origin : Origin) : Record (Option (List Triple)) Graph where
  title := "struct Graph"
  strict := false
  fields := [.of "triples" false id (fun _ ts => some ts) (asList (Triple.decode origin))]
  start := none
  complete d := (require "triples" d).map Graph.mk

/-- Takes a tree as a graph. -/
def Graph.decode (origin : Origin) (t : Tree) : Decoded Graph :=
  (Graph.record origin).decode origin t

/-- A graph as a tree. -/
def Graph.toTree (g : Graph) : Tree :=
  .record [("triples", .list (g.triples.map Triple.toTree))]

end WebAccess.Rdf
