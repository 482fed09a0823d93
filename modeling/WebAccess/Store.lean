import WebAccess.Observed
import WebAccess.Resource

/-!
# Stores

Access control owns no data. It reads resources from a store and asks the store for the container
of an identifier. A store also states a horizon: how many containers a walk may climb before it is
given up. For a store whose identifiers have finitely many containers above them, a large enough
horizon is never reached, so it decides nothing.

`Memory` is the plainest store: a list of resources under their own identifiers.
-/

set_option autoImplicit false

namespace WebAccess

/-- A source of resources. -/
structure Store where
  /-- The resource under an identifier, its absence, or the fault of reading it. -/
  read : Identifier → Except Fault (Option Resource)
  /-- The container of an identifier, if it has one. -/
  container : Identifier → Option Identifier
  /-- How many containers a walk from an identifier may climb. -/
  horizon : Identifier → Nat

/-- Reads a resource and takes note of it. -/
def Store.fetch (s : Store) (id : Identifier) : Inquiry (Option Resource) :=
  match s.read id with
  | .ok found => do
    Inquiry.note (.read id true)
    return found
  | .error fault => do
    Inquiry.note (.read id false)
    Inquiry.fail fault

/-- Resources in memory, no two under the same identifier. -/
structure Memory where
  /-- The resources. -/
  resources : List Resource
  /-- Each identifier stands once. -/
  distinct : (resources.map (·.identifier)).Nodup

namespace Memory

/-- The store without resources. -/
def empty : Memory := ⟨[], List.nodup_nil⟩

instance : EmptyCollection Memory := ⟨empty⟩

instance : Inhabited Memory := ⟨empty⟩

/-- The resource under an identifier. -/
def find? (m : Memory) (id : Identifier) : Option Resource :=
  m.resources.find? fun r => r.identifier = id

/-- The store without the resource under an identifier. -/
def remove (m : Memory) (id : Identifier) : Memory :=
  ⟨m.resources.filter fun r => r.identifier ≠ id,
    m.distinct.sublist (List.filter_sublist.map _)⟩

/-- The store with a resource, which takes the place of the one under the same identifier. -/
def put (m : Memory) (r : Resource) : Memory :=
  ⟨r :: (m.remove r.identifier).resources, by
    rw [List.map_cons, List.nodup_cons]
    exact ⟨by simp [remove], (m.remove r.identifier).distinct⟩⟩

/-- The store in which a resource has a new access-control graph; the resource is created if it is
missing, and keeps its content if it is there. -/
def writeAcl (m : Memory) (id : Identifier) (acl : Rdf.Graph) : Memory :=
  m.put { (m.find? id).getD (Resource.new id) with identifier := id, acl := some acl }

/-- The number of resources. -/
def size (m : Memory) : Nat := m.resources.length

/-- True if there is no resource. -/
def isEmpty (m : Memory) : Bool := m.resources.isEmpty

/-- The store that reads from memory and takes the container of an identifier from its path. Each
container is shorter than what it contains, so the length of an identifier bounds the walk. -/
def toStore (m : Memory) : Store where
  read id := .ok (m.find? id)
  container := Identifier.parent?
  horizon id := id.length

/-- Removing a resource leaves all others as they are. -/
theorem find?_remove_of_ne (m : Memory) {id other : Identifier} (h : other ≠ id) :
    (m.remove id).find? other = m.find? other := by
  simp only [find?, remove, List.find?_filter]
  congr 1
  funext r
  by_cases hr : r.identifier = other
  · simp [hr, h]
  · simp [hr]

/-- A resource that has been put is found under its identifier. -/
@[simp] theorem find?_put_self (m : Memory) (r : Resource) :
    (m.put r).find? r.identifier = some r := by
  simp [find?, put]

/-- Putting a resource leaves all others as they are. -/
theorem find?_put_of_ne (m : Memory) {r : Resource} {id : Identifier} (h : id ≠ r.identifier) :
    (m.put r).find? id = m.find? id := by
  rw [← find?_remove_of_ne m h]
  simp [find?, put, Ne.symm h]

end Memory

end WebAccess
