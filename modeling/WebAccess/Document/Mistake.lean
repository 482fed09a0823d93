/-!
# Mistakes in documents

Why a document cannot be taken as a value of some type. A mistake in the meaning is described; a
mistake in the text is not, since its wording belongs to the reader of the text.
-/

set_option autoImplicit false

namespace WebAccess.Document

/-- Why a document does not describe a value. -/
inductive Mistake where
  /-- A field that the type does not have. -/
  | unknownField (name : String) (known : List String)
  /-- A word that is none of the words of the type. -/
  | unknownVariant (name : String) (known : List String)
  /-- A field that is given twice. -/
  | duplicateField (name : String)
  /-- A field that is not given. -/
  | missingField (name : String)
  /-- A part of another type. -/
  | wrongType (found expected : String)
  /-- A part of the right type with an impossible value. -/
  | wrongValue (found expected : String)
  /-- A mistake without description: in the text, in the length of a sequence, or in the form of a
  word. -/
  | malformed
deriving DecidableEq, Repr

namespace Mistake

/-- A name as it stands in messages. -/
def ticked (name : String) : String := "\x60" ++ name ++ "\x60"

/-- The names that were expected. -/
def choices : List String → String
  | [] => "there are no fields"
  | [one] => "expected " ++ ticked one
  | [one, two] => "expected " ++ ticked one ++ " or " ++ ticked two
  | names => "expected one of " ++ ", ".intercalate (names.map ticked)

/-- The first line of a text. -/
def firstLine (s : String) : String :=
  let line := s.toList.takeWhile (· ≠ '\n')
  String.ofList <|
    if line.length < s.length ∧ line.getLast? = some '\r' then line.dropLast else line

/-- The description of a mistake that has one. -/
def describe? : Mistake → Option String
  | .unknownField name known => some ("unknown field " ++ ticked name ++ ", " ++ choices known)
  | .unknownVariant name known => some ("unknown variant " ++ ticked name ++ ", " ++ choices known)
  | .duplicateField name => some ("duplicate field " ++ ticked name)
  | .missingField name => some ("missing field " ++ ticked name)
  | .wrongType found expected => some ("invalid type: " ++ found ++ ", expected " ++ expected)
  | .wrongValue found expected => some ("invalid value: " ++ found ++ ", expected " ++ expected)
  | .malformed => none

/-- The message of a mistake: the first line of its description. -/
def message? (m : Mistake) : Option String :=
  m.describe?.map firstLine

end Mistake

end WebAccess.Document
