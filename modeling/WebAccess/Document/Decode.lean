import WebAccess.Document.Mistake
import WebAccess.Document.Tree

/-!
# Taking values out of documents

A decoder takes a tree as a value of some type, or says why it cannot. It goes through the tree in
order and stops at the first mistake, of text or of meaning.

A record may be written as a map or as the sequence of its fields. In a map the fields stand in any
order, each at most once; strict records know no other keys, the others pass over what they do not
know. In a sequence the fields stand in the order of their declaration, and optional ones may be
missing at the end. What was given is collected in a draft, which is completed at the end.
-/

set_option autoImplicit false

namespace WebAccess.Document

/-- Where a tree comes from; this decides on the forms of words and on the length of sequences. -/
inductive Origin where
  /-- JSON text. -/
  | jsonText
  /-- A JSON value inside a larger document that was read already. Its maps go by their keys, of
  which each has the last value given. -/
  | jsonValue
  /-- TOML text. -/
  | toml
deriving DecidableEq, Repr

/-- A decoded value, or the first mistake. -/
abbrev Decoded (α : Type) := Except Mistake α

/-- The mistake of finding `t` where something else is expected. -/
def mismatch (t : Tree) (expected : String) : Mistake :=
  match t with
  | .unreadable | .broken => .malformed
  | t => .wrongType t.found expected

/-- Passes over a part of a document. -/
def skip (t : Tree) : Decoded Unit :=
  if t.isSound false then .ok () else .error .malformed

/-- The end of a sequence or a map. -/
def finish : Ending → Decoded Unit
  | .closed => .ok ()
  | .unreadable | .broken => .error .malformed

/-- A text. -/
def asText : Tree → Decoded String
  | .text s => .ok s
  | t => .error (mismatch t "a string")

/-- A truth value. -/
def asBool : Tree → Decoded Bool
  | .bool b => .ok b
  | t => .error (mismatch t "a boolean")

/-- A natural number below `2 ^ 64`, of the type named. -/
def asNat (typeName : String) : Tree → Decoded Nat
  | .int n =>
    if 0 ≤ n then .ok n.toNat else .error (.wrongValue (Tree.int n).found typeName)
  | t => .error (mismatch t typeName)

/-- A value or nothing. -/
def asOption {α : Type} (decode : Tree → Decoded α) : Tree → Decoded (Option α)
  | .null => .ok none
  | t => (decode t).map some

/-- The values of a sequence. -/
def asList {α : Type} (decode : Tree → Decoded α) : Tree → Decoded (List α)
  | .seq items ending => do
    let values ← items.mapM decode
    finish ending
    return values
  | t => .error (mismatch t "a sequence")

/-- The value that a word stands for. -/
def ofWord {α : Type} (words : List (String × α)) (s : String) : Decoded α :=
  match words.lookup s with
  | some a => .ok a
  | none => .error (.unknownVariant s (words.map (·.1)))

/-- The value of a word that must be written as a text. -/
def asPlainWord {α : Type} (words : List (String × α)) : Tree → Decoded α
  | .text s => ofWord words s
  | t => .error (mismatch t "variant identifier")

/-- Nothing, as what a word written as a map must carry. -/
def carriesNothing : Origin → Tree → Decoded Unit
  | .toml, .seq [] _ => .ok ()
  | .toml, .map [] _ => .ok ()
  | .toml, _ => .error .malformed
  | _, .null => .ok ()
  | _, t => .error (mismatch t "unit")

/-- One of a number of words. A word may also be written as a map from the word to nothing. -/
def asWord {α : Type} (origin : Origin) (words : List (String × α)) : Tree → Decoded α
  | .text s => ofWord words s
  | .map entries ending =>
    match origin, entries with
    | .jsonText, (key, t) :: rest => do
      let a ← ofWord words key
      carriesNothing origin t
      if rest.isEmpty then finish ending else .error .malformed
      return a
    | _, [(key, t)] => do
      let a ← ofWord words key
      carriesNothing origin t
      return a
    | .jsonValue, _ => .error (.wrongValue "map" "map with a single key")
    | _, _ => .error .malformed
  | t =>
    match origin with
    | .jsonValue => .error (mismatch t "string or map")
    | _ => .error .malformed

/-- A field of a record whose draft has the type `δ`. -/
structure Field (δ : Type) where
  /-- The key of the field. -/
  name : String
  /-- True if a sequence may end before the field. -/
  optional : Bool
  /-- True if the draft has the field. -/
  isGiven : δ → Bool
  /-- Puts the field into the draft. -/
  read : Tree → δ → Decoded δ

/-- A field given by how a draft is read and changed. -/
def Field.of {δ α : Type} (name : String) (optional : Bool) (get : δ → Option α)
    (set : δ → α → δ) (decode : Tree → Decoded α) : Field δ where
  name := name
  optional := optional
  isGiven d := (get d).isSome
  read t d := (decode t).map (set d)

/-- A record type with drafts `δ` and values `α`. -/
structure Record (δ α : Type) where
  /-- What a message says was expected. -/
  title : String
  /-- True if no other keys are allowed. -/
  strict : Bool
  /-- The fields in the order of their declaration. -/
  fields : List (Field δ)
  /-- The draft in which nothing is given. -/
  start : δ
  /-- Completes a draft. -/
  complete : δ → Decoded α

/-- Puts an entry among entries in the order of their keys, unless the key is there. -/
def insertKey (key : String) (t : Tree) : List (String × Tree) → List (String × Tree)
  | [] => [(key, t)]
  | (other, u) :: es =>
    if key < other then (key, t) :: (other, u) :: es
    else if key = other then (other, u) :: es
    else (other, u) :: insertKey key t es

/-- The entries in the order of their keys, each key with the last value given. -/
def byKey (entries : List (String × Tree)) : List (String × Tree) :=
  entries.foldr (fun e es => insertKey e.1 e.2 es) []

namespace Record

variable {δ α : Type}

/-- Reads the entries of a map into a draft. -/
def readEntries (r : Record δ α) : List (String × Tree) → δ → Decoded δ
  | [], d => .ok d
  | (key, t) :: rest, d =>
    match r.fields.find? fun f => f.name = key with
    | none => do
      if r.strict then .error (.unknownField key (r.fields.map (·.name)))
      skip t
      r.readEntries rest d
    | some field => do
      if field.isGiven d then .error (.duplicateField key)
      r.readEntries rest (← field.read t d)

/-- Reads the items of a sequence into a draft, one for each field. -/
def readItems (origin : Origin) : List (Field δ) → List Tree → Ending → δ → Decoded δ
  | field :: fields, t :: rest, ending, d => do
    readItems origin fields rest ending (← field.read t d)
  | fields, [], ending, d => do
    finish ending
    if fields.all (·.optional) then .ok d else .error .malformed
  | [], _ :: _, _, d => if origin = .toml then .ok d else .error .malformed

/-- Takes a tree as a record. -/
def decode (r : Record δ α) (origin : Origin) : Tree → Decoded α
  | .map entries ending => do
    let d ← r.readEntries (if origin = .jsonValue then byKey entries else entries) r.start
    finish ending
    r.complete d
  | .seq items ending => do
    r.complete (← readItems origin r.fields items ending r.start)
  | .date => do
    r.complete (← r.readEntries [("$__toml_private_datetime", .text "")] r.start)
  | t => .error (mismatch t r.title)

end Record

/-- A field that must have been given. -/
def require {α : Type} (name : String) : Option α → Decoded α
  | some a => .ok a
  | none => .error (.missingField name)

/-- A whole document: nothing may follow the value. -/
def whole {α : Type} (decode : Tree → Decoded α) (document : Tree × Bool) : Decoded α := do
  let a ← decode document.1
  if document.2 then .ok a else .error .malformed

end WebAccess.Document
