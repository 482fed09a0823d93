import WebAccess.Document.Tree

/-!
# Tables under construction

The headers and keys of a TOML document say where its values go. A table is opened by a header,
made on the way to a table below it, or made by the points in a key, and each of these may be done
again only in some cases: a header opens a table once, a key with points may not reach into a
table that a header has opened, and no key is given twice. A table that was made on the way moves
to the place of the header that opens it.
-/

set_option autoImplicit false

namespace WebAccess.Document.Toml

/-- How a table came about. -/
inductive Origination where
  /-- A header has opened it. -/
  | opened
  /-- It was made on the way to a table below it. -/
  | passed
  /-- The points in a key have made it. -/
  | dotted
deriving DecidableEq, Repr

/-- A part of a document under construction. -/
inductive Node where
  /-- A finished value. -/
  | value (t : Tree)
  /-- A table. -/
  | table (how : Origination) (entries : List (String × Node))
  /-- The tables under a header in double brackets, latest first. -/
  | tables (items : List (List (String × Node)))

/-- The entries of a table. -/
abbrev Entries := List (String × Node)

/-- The entries with a new node under a key that is there. -/
def replace (key : String) (node : Node) (es : Entries) : Entries :=
  es.map fun e => if e.1 = key then (key, node) else e

/-- The entries without a key. -/
def remove (key : String) (es : Entries) : Entries :=
  es.filter fun e => e.1 ≠ key

/-- Goes down a path and changes the table at its end; tables that are missing are made on the way
as `how` says. The change gets the way in which the table came about. -/
def descend {α : Type} (how : Origination) (change : Origination → Entries → Option (α × Entries)) :
    List String → Origination → Entries → Option (α × Entries)
  | [], here, es => change here es
  | key :: path, _, es =>
    match es.lookup key with
    | none => do
      let (a, inner) ← descend how change path how []
      return (a, es ++ [(key, .table how inner)])
    | some (.table made inner) => do
      if how = .dotted ∧ made = .opened then none
      else
        let (a, inner) ← descend how change path made inner
        return (a, replace key (.table made inner) es)
    | some (.tables (inner :: others)) => do
      let (a, inner) ← descend how change path .opened inner
      return (a, replace key (.tables (inner :: others)) es)
    | some _ => none

/-- Puts a value under a key with points. The table that the points lead to must have been made by
points alone. -/
def putValue (path : List String) (key : String) (t : Tree) (es : Entries) : Option Entries :=
  let put (here : Origination) (es : Entries) : Option (Unit × Entries) :=
    if !path.isEmpty ∧ here ≠ .dotted then none
    else
      match es.lookup key with
      | some _ => none
      | none => some ((), es ++ [(key, .value t)])
  (descend .dotted put path .opened es).map (·.2)

mutual

/-- A node as a tree. -/
def Node.toTree : Node → Tree
  | .value t => t
  | .table _ entries => .record (entryTrees entries)
  | .tables items => .list (tableTrees items).reverse

/-- The entries of a table as trees. -/
def entryTrees : List (String × Node) → List (String × Tree)
  | [] => []
  | (key, node) :: es => (key, node.toTree) :: entryTrees es

/-- Tables as trees. -/
def tableTrees : List (List (String × Node)) → List Tree
  | [] => []
  | es :: more => .record (entryTrees es) :: tableTrees more

end

/-- A document under construction: the finished tables, and the one that the last header has
opened. -/
structure Draft where
  /-- The finished tables. -/
  root : Entries
  /-- The path of the open table. -/
  path : List String
  /-- True if the open table is one of several under its path. -/
  listed : Bool
  /-- The entries of the open table. -/
  current : Entries

namespace Draft

/-- The draft of a document of which nothing was read. -/
def empty : Draft := ⟨[], [], false, []⟩

/-- Puts the open table into its place. -/
def close (d : Draft) : Option Entries :=
  match d.path.getLast? with
  | none => some d.current
  | some key =>
    let put (_ : Origination) (es : Entries) : Option (Unit × Entries) :=
      match d.listed, es.lookup key with
      | false, none => some ((), es ++ [(key, .table .opened d.current)])
      | true, none => some ((), es ++ [(key, .tables [d.current])])
      | true, some (.tables items) => some ((), replace key (.tables (d.current :: items)) es)
      | _, some _ => none
    (descend .passed put d.path.dropLast .opened d.root).map (·.2)

/-- Opens the table of a header. -/
def openTable (d : Draft) (path : List String) : Option Draft := do
  let root ← d.close
  let key ← path.getLast?
  let take (_ : Origination) (es : Entries) : Option (Entries × Entries) :=
    match es.lookup key with
    | none => some ([], es)
    | some (.table .passed inner) => some (inner, remove key es)
    | some _ => none
  let (current, root) ← descend .passed take path.dropLast .opened root
  return ⟨root, path, false, current⟩

/-- Opens a further table of a header in double brackets, whose place is taken from now on. -/
def openListed (d : Draft) (path : List String) : Option Draft := do
  let root ← d.close
  let key ← path.getLast?
  let reserve (_ : Origination) (es : Entries) : Option (Unit × Entries) :=
    match es.lookup key with
    | none => some ((), es ++ [(key, .tables [])])
    | some (.tables _) => some ((), es)
    | some _ => none
  let (_, root) ← descend .passed reserve path.dropLast .opened root
  return ⟨root, path, true, []⟩

/-- Puts a value into the open table. -/
def put (d : Draft) (key : List String) (t : Tree) : Option Draft := do
  let name ← key.getLast?
  return { d with current := ← putValue key.dropLast name t d.current }

end Draft

end WebAccess.Document.Toml
