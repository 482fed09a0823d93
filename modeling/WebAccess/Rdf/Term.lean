import WebAccess.Text.Quoted

/-!
# Terms and triples

RDF statements as plain values: a term is an IRI, a blank node or a literal, and a triple states
that its subject has its object under its predicate.
-/

set_option autoImplicit false

namespace WebAccess.Rdf

/-- An RDF term. -/
inductive Term where
  /-- An IRI. -/
  | iri (value : String)
  /-- A blank node with its label. -/
  | blank (label : String)
  /-- A literal with its lexical form. -/
  | literal (value : String)
deriving DecidableEq, Repr

namespace Term

/-- The IRI of a term that is one. -/
def iri? : Term → Option String
  | iri value => some value
  | _ => none

/-- The text of a term: an IRI in angle brackets, a label after `_:`, a literal between quotes. -/
def render : Term → String
  | iri value => "<" ++ value ++ ">"
  | blank label => "_:" ++ label
  | literal value => Text.quoted value

/-- A term has an IRI exactly if it is that IRI. -/
theorem iri?_eq_some_iff {t : Term} {s : String} : t.iri? = some s ↔ t = iri s := by
  cases t <;> simp [iri?]

end Term

/-- An RDF statement; the predicate is always an IRI. -/
structure Triple where
  /-- What the statement is about. -/
  subject : Term
  /-- The IRI of the relation. -/
  predicate : String
  /-- What the subject is related to. -/
  object : Term
deriving DecidableEq, Repr

/-- The text of a triple, ended by a point. -/
def Triple.render (t : Triple) : String :=
  t.subject.render ++ " <" ++ t.predicate ++ "> " ++ t.object.render ++ " ."

end WebAccess.Rdf
