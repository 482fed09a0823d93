import WebAccess.Store

/-!
# Overlays

A memory store seen through four tables: identifiers whose reading or writing fails, identifiers
that stand for another one, and identifiers whose container is not the one that their path gives.
A resource reached under another name keeps its own identifier.
-/

set_option autoImplicit false

namespace WebAccess

/-- A finite table from identifiers to values, in which the last entry given for an identifier
holds. -/
abbrev Table (α : Type) := List (Identifier × α)

namespace Table

variable {α : Type}

/-- The table without an entry for the identifier. -/
def erase (t : Table α) (id : Identifier) : Table α :=
  t.filter fun e => e.1 ≠ id

/-- The table with an entry for the identifier. -/
def put (t : Table α) (id : Identifier) (value : α) : Table α :=
  (id, value) :: erase t id

/-- The table with the entry given, or without one. -/
def alter (t : Table α) (id : Identifier) : Option α → Table α
  | some value => put t id value
  | none => erase t id

end Table

/-- A memory store with faults, aliases and chosen containers. -/
structure Overlay where
  /-- The resources. -/
  memory : Memory
  /-- Why reading an identifier fails. -/
  readFaults : Table String
  /-- Why writing to an identifier fails. -/
  writeFaults : Table String
  /-- The stored identifier that an identifier stands for. -/
  aliases : Table Identifier
  /-- The containers that are not those of the path; `none` makes an identifier a root. -/
  containers : Table (Option Identifier)

namespace Overlay

/-- The overlay of a memory store in which nothing is changed. -/
def ofMemory (m : Memory) : Overlay := ⟨m, [], [], [], []⟩

/-- The resource under an identifier or its alias. -/
def read (o : Overlay) (id : Identifier) : Except Fault (Option Resource) :=
  match o.readFaults.lookup id with
  | some reason => .error (.lookup id reason)
  | none => .ok (o.memory.find? ((o.aliases.lookup id).getD id))

/-- The container of an identifier. -/
def container (o : Overlay) (id : Identifier) : Option Identifier :=
  match o.containers.lookup id with
  | some chosen => chosen
  | none => Identifier.parent? id

/-- A bound on every walk without repetition: between two chosen containers the identifiers get
shorter, and each choice is met once. -/
def horizon (o : Overlay) (id : Identifier) : Nat :=
  o.containers.foldr (fun e steps => (e.2.getD "").length + 1 + steps) id.length

/-- The store that the overlay shows. -/
def toStore (o : Overlay) : Store where
  read := o.read
  container := o.container
  horizon := o.horizon

/-- Writes the access-control graph of an identifier, which is not looked up as an alias. -/
def writeAcl (o : Overlay) (id : Identifier) (acl : Rdf.Graph) : Except Fault Overlay :=
  match o.writeFaults.lookup id with
  | some reason => .error (.aclWrite id reason)
  | none => .ok { o with memory := o.memory.writeAcl id acl }

/-- Reading fails only for the reason that is given for the identifier. -/
theorem exists_reason_of_read {o : Overlay} {id : Identifier} {fault : Fault}
    (h : o.read id = .error fault) : ∃ reason, fault = .lookup id reason := by
  unfold read at h
  cases hlookup : o.readFaults.lookup id with
  | none =>
    rw [hlookup] at h
    cases h
  | some reason =>
    rw [hlookup] at h
    exact ⟨reason, (Except.error.inj h).symm⟩

end Overlay

end WebAccess
