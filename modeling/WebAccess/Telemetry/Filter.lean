import WebAccess.Observed
import WebAccess.Text.Alphanumeric
import WebAccess.Text.Blank
import WebAccess.Text.Digit
import WebAccess.Text.Pieces

/-!
# Log filters

A filter says which events are logged. It is a list of directives between commas: `debug` sets the
level for everything, `store` logs everything from targets that begin with that name, `store=info`
sets their level, and `store[open]=info` sets it inside spans of a name. A directive is scanned
without the blanks around it, while its parts are cut from the text as written; blanks in front of
a directive with a level therefore spoil the level.

Of the directives whose target fits an event, the one with the longest target decides, and of two
with the same target the later one.
-/

set_option autoImplicit false

namespace WebAccess.Telemetry

/-- Why a filter is not valid. -/
inductive FilterError where
  /-- A directive has none of the forms. -/
  | invalid
  /-- A level is none of the levels. -/
  | badLevel
deriving DecidableEq, Repr

/-- The message of a filter error. -/
def FilterError.message : FilterError → String
  | invalid => "invalid filter directive"
  | badLevel =>
    "error parsing level filter: expected one of \"off\", \"error\", \"warn\", \"info\", " ++
      "\"debug\", \"trace\", or a number 0-5"

/-- One directive. Its level is the highest rank it lets pass, zero for none. -/
structure Directive where
  /-- The beginning of the targets it is about; none for all. -/
  target : Option String
  /-- True if it holds inside certain spans only. -/
  inSpan : Bool
  /-- The highest rank it lets pass. -/
  level : Nat
deriving DecidableEq, Repr

/-- The words for levels. -/
def levelWords : List (String × Nat) :=
  [("off", 0), ("error", 1), ("warn", 2), ("info", 3), ("debug", 4), ("trace", 5)]

/-- The level that a text denotes: a word in any case, or a number up to five. -/
def level? (cs : List Char) : Option Nat :=
  match Text.natural? 6 cs with
  | some n => some n
  | none => levelWords.lookup (String.ofList (cs.map Char.toLower))

/-- The form of a directive, with the places where its parts begin. -/
inductive DirectiveForm where
  /-- A level or a target. -/
  | bare
  /-- A target up to `stop`, with a level from `level` on. -/
  | leveled (stop level : Nat)
  /-- Something about spans, with a level from `level` on if there is one. -/
  | spanned (level : Option Nat)

/-- True if a directive may begin with the character. -/
def mayBegin (c : Char) : Bool :=
  Text.isAlphanumeric c || c ∈ ['-', ':', '_']

/-- The form of what follows the opening bracket of a span at the place `at_`. -/
def spanForm? (at_ : Nat) (cs : List Char) : Option DirectiveForm :=
  let name := cs.takeWhile fun c => c ≠ ']' && c ≠ '\x7b'
  let close (at_ : Nat) : List Char → Option DirectiveForm
    | [']'] => some (.spanned none)
    | ']' :: '=' :: _ => some (.spanned (some (at_ + 2)))
    | _ => none
  match cs.drop name.length with
  | '\x7b' :: rest =>
    let field := rest.takeWhile fun c => c ≠ '\x7d'
    if field.isEmpty then none
    else close (at_ + name.length + field.length + 2) (rest.drop (field.length + 1))
  | rest => close (at_ + name.length) rest

/-- The form of a directive without blanks around it. -/
def form? (cs : List Char) : Option DirectiveForm :=
  match cs with
  | [] => none
  | '[' :: rest => spanForm? 1 rest
  | c :: _ =>
    if mayBegin c then
      let name := cs.takeWhile fun c => c ≠ '=' && c ≠ '['
      match cs.drop name.length with
      | [] => some .bare
      | '=' :: _ => some (.leveled name.length (name.length + 1))
      | _ :: rest => spanForm? (name.length + 1) rest
    else none

/-- The level from a place on; nothing there means every level. -/
def levelFrom (cs : List Char) (at_ : Nat) : Except FilterError Nat :=
  match cs.drop at_ with
  | [] => .ok 5
  | rest =>
    match level? rest with
    | some level => .ok level
    | none => .error .badLevel

/-- Reads one directive. -/
def Directive.read (cs : List Char) : Except FilterError Directive :=
  match form? (Text.trim cs) with
  | none => .error .invalid
  | some .bare =>
    match level? cs with
    | some level => .ok ⟨none, false, level⟩
    | none => .ok ⟨some (String.ofList cs), false, 5⟩
  | some (.leveled stop level) => do
    return ⟨some (String.ofList (cs.take stop)), false, ← levelFrom cs level⟩
  | some (.spanned none) => .ok ⟨none, true, 5⟩
  | some (.spanned (some level)) => do
    return ⟨none, true, ← levelFrom cs level⟩

/-- A filter. -/
structure Filter where
  /-- Its directives in the order written. -/
  directives : List Directive
deriving DecidableEq, Repr

namespace Filter

/-- Reads a filter; empty pieces are passed over. -/
def read (s : String) : Except FilterError Filter := do
  let pieces := (Text.pieces ',' s.toList).filter fun piece => !piece.isEmpty
  return ⟨← pieces.mapM Directive.read⟩

/-- The more specific of two directives; the later one if they are about the same targets. -/
def closer (earlier : Option Directive) (later : Directive) : Option Directive :=
  match earlier with
  | none => some later
  | some d =>
    let size (d : Directive) : Nat := (d.target.map fun t => t.utf8ByteSize + 1).getD 0
    if size d ≤ size later then some later else some d

/-- True if an event of the level from the target, outside all spans, passes the filter. A filter
without directives lets errors pass. -/
def passes (f : Filter) (target : String) (level : Level) : Bool :=
  if f.directives.isEmpty then level.rank ≤ 1
  else
    let fitting := f.directives.filter fun d =>
      !d.inSpan && (d.target.map fun t => t.toList.isPrefixOf target.toList).getD true
    match fitting.foldl closer none with
    | some d => level.rank ≤ d.level
    | none => false

end Filter

end WebAccess.Telemetry
