import WebAccess.Settings.Environment
import WebAccess.Text.Blank
import WebAccess.Text.Pieces

/-!
# Files of variables

A file may hold variables for the environment, one `NAME=value` a line, where `export` may stand
in front. Blank lines and comments say nothing. A value may stand between quotes, and then goes on
over the line ends between them; without quotes a backslash takes the meaning from the next
character, and what follows a blank must be a comment. Reading stops at the first line that has
none of these forms. A variable that the environment has already is left alone.

The text is first put together into lines (`entries`), each of which is then read by itself
(`line?`).
-/

set_option autoImplicit false

namespace WebAccess.Settings.VariableFile

/-- Where in a value a character stands. -/
inductive Place where
  /-- Outside of quotes. -/
  | bare
  /-- Between single quotes. -/
  | single
  /-- Between double quotes. -/
  | double
  /-- After the blank that ends the value. -/
  | after
deriving DecidableEq, Repr

/-- The character that stands for an escaped one. -/
def escaped? (c : Char) : Option Char :=
  if c ∈ ['\\', '\x27', '"', '$', ' '] then some c
  else if c = 'n' then some '\n'
  else none

/-- The value that a text denotes. -/
def value? : Place → List Char → Option (List Char)
  | .bare, [] | .after, [] => some []
  | .single, [] | .double, [] => none
  | .after, c :: cs =>
    if c = ' ' ∨ c = '\t' then value? .after cs
    else if c = '#' then some []
    else none
  | .single, c :: cs =>
    if c = '\x27' then value? .bare cs else (value? .single cs).map (c :: ·)
  | .bare, ['\\'] => some []
  | .double, ['\\'] => none
  | place, '\\' :: c :: cs => do
    let d ← escaped? c
    return d :: (← value? place cs)
  | .double, c :: cs =>
    if c = '"' then value? .bare cs else (value? .double cs).map (c :: ·)
  | .bare, c :: cs =>
    if c = '\x27' then value? .single cs
    else if c = '"' then value? .double cs
    else if c = ' ' ∨ c = '\t' then value? .after cs
    else (value? .bare cs).map (c :: ·)

/-- True if the name of a variable may begin with the character. -/
def beginsName (c : Char) : Bool := c.isAlpha || c = '_'

/-- True if the character may stand in the name of a variable. -/
def isNameChar (c : Char) : Bool := c.isAlphanum || c = '_' || c = '.'

/-- The name of a variable at the front of a text, and what follows it and blanks. -/
def name? (cs : List Char) : Option (String × List Char) :=
  match cs with
  | [] => none
  | c :: _ =>
    if beginsName c then
      let name := cs.takeWhile isNameChar
      some (String.ofList name, (cs.drop name.length).dropWhile Text.isBlank)
    else none

/-- The text after an equals sign. -/
def afterEquals? : List Char → Option (List Char)
  | '=' :: rest => some rest
  | _ => none

/-- What a line says: nothing, or a variable with its value; no answer if it has none of the
forms. -/
def line? (cs : List Char) : Option (Option (String × String)) :=
  match Text.trim cs with
  | [] => some none
  | '#' :: _ => some none
  | cs => do
    let (name, rest) ← name? cs
    let (name, rest) ←
      match afterEquals? rest with
      | some rest => some (name, rest)
      | none =>
        if name = "export" then do
          let (name, rest) ← name? rest
          some (name, ← afterEquals? rest)
        else none
    match rest.dropWhile Text.isBlank with
    | [] => return some (name, "")
    | '#' :: _ => return some (name, "")
    | rest => return some (name, String.ofList (← value? .bare rest))

/-- The environment with a variable, unless it is there. -/
def define (env : Environment) (entry : String × String) : Environment :=
  match env.lookup entry.1 with
  | some _ => env
  | none => env ++ [entry]

/-- What stands open at a place in a line. -/
inductive Context where
  /-- Nothing. -/
  | plain
  /-- A blank, so a comment may begin. -/
  | blank
  /-- A backslash. -/
  | escape
  /-- A single quote. -/
  | single
  /-- A backslash after a single quote. -/
  | singleEscape
  /-- A double quote. -/
  | double
  /-- A backslash after a double quote. -/
  | doubleEscape
  /-- A comment. -/
  | comment
deriving DecidableEq, Repr

/-- What stands open after a character. -/
def Context.after (context : Context) (c : Char) : Context :=
  match context with
  | .comment => .comment
  | .escape => .plain
  | .singleEscape => .single
  | .doubleEscape => .double
  | .single => if c = '\\' then .singleEscape else if c = '\x27' then .plain else .single
  | .double => if c = '\\' then .doubleEscape else if c = '"' then .plain else .double
  | .plain | .blank =>
    if c = '#' ∧ context = .blank then .comment
    else if c = '\\' then .escape
    else if c = '\x27' then .single
    else if c = '"' then .double
    else if Text.isBlank c ∧ c ≠ '\r' ∧ context = .plain then .blank
    else .plain

/-- What stands open after a line end. -/
def Context.afterLine : Context → Context
  | .single | .singleEscape => .single
  | .double | .doubleEscape => .double
  | _ => .plain

/-- A line without the comment in it, and what stands open at its end. -/
def strip (context : Context) : List Char → List Char × Context
  | [] => ([], context)
  | c :: cs =>
    match context.after c with
    | .comment => ([], .comment)
    | next => let p := strip next cs; (c :: p.1, p.2)

/-- Puts lines together as long as a quote stands open; `held` is what was held back so far. A
line with none of the forms, and one that the end of the text leaves open, is no text. -/
def join (held : List Char) (context : Context) :
    List (Option (List Char)) → List (Option (List Char))
  | [] => []
  | none :: _ => [none]
  | [some line] =>
    if held.isEmpty ∧ (line.isEmpty ∨ (Text.trim line).head? = some '#') then []
    else
      match strip context line with
      | (kept, .plain) | (kept, .comment) => [some (held ++ kept)]
      | _ => [none]
  | some line :: lines =>
    if held.isEmpty ∧ (Text.trim line).head? = some '#' then join [] .plain lines
    else
      let (kept, last) := strip context line
      match last.afterLine with
      | .plain => some (held ++ kept) :: join [] .plain lines
      | next => join (held ++ kept ++ ['\n']) next lines

/-- The lines of a file, put together; a line that is no text ends them. A mark of the byte order
may stand in front. -/
def entries (bytes : ByteArray) : List (Option (List Char)) :=
  let text (line : List UInt8) : Option (List Char) :=
    (String.fromUTF8? ⟨line.toArray⟩).map String.toList
  match (Text.pieces 10 bytes.toList).map text with
  | some (c :: line) :: lines =>
    join [] .plain (some (if c.toNat = 0xfeff then line else c :: line) :: lines)
  | lines => join [] .plain lines

/-- The environment with the variables of the lines up to the first that has none of the forms. -/
def defineEntries (env : Environment) : List (Option (List Char)) → Environment
  | [] | none :: _ => env
  | some line :: lines =>
    match line? line with
    | none => env
    | some none => defineEntries env lines
    | some (some entry) => defineEntries (define env entry) lines

/-- The environment with the variables of a file. -/
def load (env : Environment) (bytes : ByteArray) : Environment :=
  defineEntries env (entries bytes)

end WebAccess.Settings.VariableFile
