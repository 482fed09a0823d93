import WebAccess.Text.Quoted

/-!
# Document trees

What a structured document says, before anything is known about the meaning of its parts. A tree
also records where the text of the document goes wrong: a sequence or a map holds what was read
before that point and how it ends. A consumer that goes through the tree in order therefore meets
mistakes in the order of the text, whether they lie in the text or in its meaning.

Some parts are well-formed but have no value, such as a number out of range. They do no harm where
the document is passed over, and are a mistake where it is read.
-/

set_option autoImplicit false

namespace WebAccess.Document

/-- How a sequence or a map ends. -/
inductive Ending where
  /-- With its closing mark. -/
  | closed
  /-- With a key that has no value as a text, and what follows it up to the closing mark. -/
  | unreadable
  /-- With a mistake in the text. -/
  | broken
deriving DecidableEq, Repr

/-- A document, or a part of one. -/
inductive Tree where
  /-- Nothing. -/
  | null
  /-- A truth value. -/
  | bool (b : Bool)
  /-- An integer. -/
  | int (n : Int)
  /-- A number that is no integer, by its text in messages. -/
  | real (shown : String)
  /-- A text. -/
  | text (s : String)
  /-- A date or a time of day. -/
  | date
  /-- A sequence. -/
  | seq (items : List Tree) (ending : Ending)
  /-- A map, with its entries in the order of the document. -/
  | map (entries : List (String × Tree)) (ending : Ending)
  /-- A part that is well-formed and has no value. -/
  | unreadable
  /-- A mistake in the text. -/
  | broken

namespace Tree

/-- A closed map. -/
def record (entries : List (String × Tree)) : Tree := map entries .closed

/-- A closed sequence. -/
def list (items : List Tree) : Tree := seq items .closed

/-- What a message says was found. -/
def found : Tree → String
  | .null => "null"
  | .bool b => "boolean \x60" ++ toString b ++ "\x60"
  | .int n => "integer \x60" ++ toString n ++ "\x60"
  | .real shown => "floating point \x60" ++ shown ++ "\x60"
  | .text s => "string " ++ Text.quoted s
  | .seq .. => "sequence"
  | .date | .map .. => "map"
  | .unreadable | .broken => "nothing"

mutual

/-- True if the text of the part is well-formed; with `strict`, if every part of it has a value
too. -/
def isSound (strict : Bool) : Tree → Bool
  | .null | .bool _ | .int _ | .real _ | .text _ | .date => true
  | .seq items ending => allSound strict items && endingSound strict ending
  | .map entries ending => allEntriesSound strict entries && endingSound strict ending
  | .unreadable => !strict
  | .broken => false

/-- True if all parts of a sequence are sound. -/
def allSound (strict : Bool) : List Tree → Bool
  | [] => true
  | t :: ts => isSound strict t && allSound strict ts

/-- True if all values of a map are sound. -/
def allEntriesSound (strict : Bool) : List (String × Tree) → Bool
  | [] => true
  | (_, t) :: es => isSound strict t && allEntriesSound strict es

/-- True if an ending is sound. -/
def endingSound (strict : Bool) : Ending → Bool
  | .closed => true
  | .unreadable => !strict
  | .broken => false

end

/-- The value under a key of a map. -/
def get? (t : Tree) (key : String) : Option Tree :=
  match t with
  | .map entries _ => entries.lookup key
  | _ => none

end Tree

end WebAccess.Document
