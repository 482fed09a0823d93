import WebAccess.Document.Toml.Scan
import WebAccess.Document.Toml.Table

/-!
# Reading TOML

TOML text becomes a tree whose maps have their keys in the order of the document. The text is read
as a whole before anything is taken out of it, so a mistake in the text is always reported first.
-/

set_option autoImplicit false

namespace WebAccess.Document.Toml

/-- The text after blanks, comments and line ends. -/
def skipLines : Nat → List Char → Option (List Char)
  | 0, _ => none
  | fuel + 1, cs =>
    match skipBlanks cs with
    | '#' :: rest => (dropNewline (rest.dropWhile isPlain)).bind (skipLines fuel)
    | cs =>
      match dropNewline cs with
      | some rest => skipLines fuel rest
      | none => some cs

mutual

/-- Reads a value, which has `depth` arrays and inline tables around it. -/
def readValue : Nat → Nat → List Char → Option (Tree × List Char)
  | 0, _, _ => none
  | fuel + 1, depth, cs =>
    match cs with
    | '"' :: _ | '\x27' :: _ => (scanString cs).map fun p => (.text p.1, p.2)
    | '[' :: rest =>
      if depth < depthLimit then
        (readArray fuel (depth + 1) rest).map fun p => (.list p.1, p.2)
      else none
    | '\x7b' :: rest =>
      if depth < depthLimit then
        match skipBlanks rest with
        | '\x7d' :: rest => some (.record [], rest)
        | rest => (readPairs fuel (depth + 1) [] rest).map fun p => (.record (entryTrees p.1), p.2)
      else none
    | cs => scanScalar cs

/-- Reads the items of an array after its bracket or a comma. -/
def readArray : Nat → Nat → List Char → Option (List Tree × List Char)
  | 0, _, _ => none
  | fuel + 1, depth, cs => do
    match ← skipLines (cs.length + 1) cs with
    | ']' :: rest => return ([], rest)
    | cs =>
      let (t, rest) ← readValue fuel depth cs
      match ← skipLines (rest.length + 1) rest with
      | ',' :: rest =>
        let (ts, rest) ← readArray fuel depth rest
        return (t :: ts, rest)
      | ']' :: rest => return ([t], rest)
      | _ => none

/-- Reads the pairs of an inline table after its brace or a comma. -/
def readPairs : Nat → Nat → Entries → List Char → Option (Entries × List Char)
  | 0, _, _, _ => none
  | fuel + 1, depth, es, cs => do
    let (key, t, rest) ← readPair fuel depth cs
    let name ← key.getLast?
    let es ← putValue key.dropLast name t es
    match skipBlanks rest with
    | ',' :: rest => readPairs fuel depth es rest
    | '\x7d' :: rest => return (es, rest)
    | _ => none

/-- Reads a key and its value. -/
def readPair : Nat → Nat → List Char → Option (List String × Tree × List Char)
  | 0, _, _ => none
  | fuel + 1, depth, cs => do
    let (key, rest) ← scanKey depthLimit cs
    match rest with
    | '=' :: rest =>
      let (t, rest) ← readValue fuel depth (skipBlanks rest)
      return (key, t, rest)
    | _ => none

end

/-- Reads the lines of a document into a draft. -/
def readLines : Nat → Draft → List Char → Option Draft
  | 0, _, _ => none
  | fuel + 1, d, cs =>
    match skipBlanks cs with
    | [] => some d
    | '#' :: rest => do
      readLines fuel d (← dropLineEnd ('#' :: rest))
    | '[' :: '[' :: rest => do
      let (key, rest) ← scanKey depthLimit rest
      match rest with
      | ']' :: ']' :: rest => readLines fuel (← d.openListed key) (← dropLineEnd rest)
      | _ => none
    | '[' :: rest => do
      let (key, rest) ← scanKey depthLimit rest
      match rest with
      | ']' :: rest => readLines fuel (← d.openTable key) (← dropLineEnd rest)
      | _ => none
    | cs =>
      match dropNewline cs with
      | some rest => readLines fuel d rest
      | none => do
        let (key, t, rest) ← readPair (cs.length + 1) 0 cs
        readLines fuel (← d.put key t) (← dropLineEnd rest)

/-- Reads a document; none if its text has a mistake. A mark of the byte order may stand in front.
-/
def read (s : String) : Option Tree := do
  let cs :=
    match s.toList with
    | c :: rest => if c.toNat = 0xfeff then rest else c :: rest
    | [] => []
  let d ← readLines (cs.length + 1) .empty cs
  return .record (entryTrees (← d.close))

end WebAccess.Document.Toml
