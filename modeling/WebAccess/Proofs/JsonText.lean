import Mathlib.Tactic.SplitIfs
import WebAccess.Document.Json.Reader
import WebAccess.Document.Json.Writer

/-!
# JSON text is read as it was written

Values of this library are written with nothing, texts, sequences and maps (`Tree.Plain`). Such a
tree, nested no deeper than the reader goes, is what the reader finds in the text that the writer
makes of it (`Json.read_write`).

The proof goes from the inside out. Each character of a string is read from its escape as one code
(`Json.stringCodes_escapeChar`), and the codes of a text hold no half of a surrogate pair, so they
are joined to the text again. A part of a document is then read whatever stands behind it
(`Json.ReadBack`): a part knows its own end. The reader has fuel for as many characters as the text
has, and each part takes less than the characters it is written with.
-/

set_option autoImplicit false

namespace WebAccess.Document

namespace Json

/-! ## Strings -/

/-- A hexadecimal digit is read as the number for which it is written. -/
theorem digitIn?_hexChar : ∀ n < 16, Text.digitIn? 16 (hexChar n) = some n := by decide

/-- The four digits for a control character are read as its code. -/
theorem hexCode?_hexChar {n : Nat} (h : n < 0x20) :
    hexCode? '0' '0' (hexChar (n / 16)) (hexChar (n % 16)) = some n := by
  have hzero : Text.digitIn? 16 '0' = some 0 := by decide
  have hhigh := digitIn?_hexChar (n / 16) (by omega)
  have hlow := digitIn?_hexChar (n % 16) (by omega)
  simp only [hexCode?, hzero, hhigh, hlow, Option.bind_eq_bind, Option.bind_some, Option.pure_def]
  congr 1
  omega

/-- A short escape is read as the code for which it stands. -/
theorem stringCodes_shortEscape {c : Char} {code : Nat} (h : shortEscape? c = some code)
    (rest : List Char) :
    stringCodes ('\\' :: c :: rest) = (stringCodes rest).map fun p => (code :: p.1, p.2) := by
  have hc : c ≠ 'u' := by
    rintro rfl
    cases h
  rw [stringCodes]
  · rw [h]
    cases stringCodes rest <;> rfl
  · intro _ _ _ _ _ hu
    exact absurd hu hc

/-- A character that needs no escape is read as its own code. -/
theorem stringCodes_unescaped {c : Char} (hquote : c ≠ '"') (hescape : c ≠ '\\')
    (hcontrol : ¬c.toNat < 0x20) (rest : List Char) :
    stringCodes (c :: rest) = (stringCodes rest).map fun p => (c.toNat :: p.1, p.2) := by
  rw [stringCodes]
  · rw [if_neg (not_or.2 ⟨hcontrol, hescape⟩)]
    cases stringCodes rest <;> rfl
  · exact hquote
  · intro _ _ _ _ _ hc
    exact absurd hc hescape
  · intro _ _ hc
    exact absurd hc hescape

/-- However a character is written, it is read as its code. -/
theorem stringCodes_escapeChar (c : Char) (rest : List Char) :
    stringCodes (escapeChar c ++ rest) =
      (stringCodes rest).map fun p => (c.toNat :: p.1, p.2) := by
  unfold escapeChar
  split_ifs with hquote hescape hline hreturn htab hback hfeed hcontrol
  · exact stringCodes_shortEscape (by rw [hquote]; rfl) rest
  · exact stringCodes_shortEscape (by rw [hescape]; rfl) rest
  · exact stringCodes_shortEscape (by rw [hline]; rfl) rest
  · exact stringCodes_shortEscape (by rw [hreturn]; rfl) rest
  · exact stringCodes_shortEscape (by rw [htab]; rfl) rest
  · exact stringCodes_shortEscape (by rw [hback]; rfl) rest
  · exact stringCodes_shortEscape (by rw [hfeed]; rfl) rest
  · simp only [List.cons_append, List.nil_append]
    rw [stringCodes, hexCode?_hexChar hcontrol]
    cases stringCodes rest <;> rfl
  · exact stringCodes_unescaped hquote hescape hcontrol rest

/-- Escaped characters are read as their codes, up to the closing quote. -/
theorem stringCodes_escaped (cs rest : List Char) :
    stringCodes (cs.flatMap escapeChar ++ '"' :: rest) = some (cs.map Char.toNat, rest) := by
  induction cs with
  | nil => rw [List.flatMap_nil, List.nil_append, stringCodes, List.map_nil]
  | cons c cs ih =>
    rw [List.flatMap_cons, List.append_assoc, stringCodes_escapeChar, ih]
    rfl

/-- The code of a character is no half of a pair of codes. -/
theorem not_surrogate (c : Char) :
    isHighSurrogate c.toNat = false ∧ isLowSurrogate c.toNat = false := by
  have hvalid : c.toNat < 0xd800 ∨ 0xdfff < c.toNat ∧ c.toNat < 0x110000 := c.valid
  simp only [isHighSurrogate, isLowSurrogate, Bool.and_eq_false_iff, decide_eq_false_iff_not]
  omega

/-- The codes of characters are joined to these characters. -/
theorem joinCodes_toNat (cs : List Char) : joinCodes (cs.map Char.toNat) = some cs := by
  induction cs with
  | nil => rfl
  | cons c cs ih =>
    obtain ⟨hhigh, hlow⟩ := not_surrogate c
    cases cs with
    | nil => simp [joinCodes, hhigh, hlow]
    | cons d cs =>
      rw [List.map_cons, List.map_cons, joinCodes, ← List.map_cons, ih]
      simp [hhigh, hlow]

/-- A string is read up to its closing quote, whatever stands behind it. -/
theorem scanString_writeString (s : String) (rest : List Char) :
    ∃ body, writeString s ++ rest = '"' :: body ∧ scanString body = some (some s, rest) := by
  refine ⟨s.toList.flatMap escapeChar ++ '"' :: rest, by simp [writeString], ?_⟩
  rw [scanString, stringCodes_escaped, Option.map_some, joinCodes_toNat, Option.map_some,
    String.ofList_toList]

/-! ## Commas -/

/-- In front of a character that is no space nothing is skipped. -/
theorem skipSpace_cons {c : Char} (h : isSpace c = false) (cs : List Char) :
    skipSpace (c :: cs) = c :: cs := by
  rw [skipSpace, List.dropWhile_cons, h]
  simp

/-- What stands between an item or an entry and the one before it. -/
def lead (first : Bool) : List Char := if first then [] else [',']

/-- Words with commas between them, and in front unless they are the first. -/
def joined : Bool → List (List Char) → List Char
  | _, [] => []
  | first, word :: words => lead first ++ word ++ joined false words

/-- An entry of a map. -/
def writeEntry (e : String × Tree) : List Char := writeString e.1 ++ ':' :: writeTree e.2

/-- The items of a sequence are written with commas between them. -/
theorem writeItems_eq (items : List Tree) :
    writeItems items = joined true (items.map writeTree) := by
  induction items with
  | nil => rfl
  | cons t items ih =>
    cases items with
    | nil => simp [writeItems, joined, lead]
    | cons u items =>
      rw [writeItems, ih]
      · simp [joined, lead]
      · simp

/-- The entries of a map are written with commas between them. -/
theorem writeEntries_eq (entries : List (String × Tree)) :
    writeEntries entries = joined true (entries.map writeEntry) := by
  induction entries with
  | nil => rfl
  | cons e entries ih =>
    cases entries with
    | nil => simp [writeEntries, joined, lead, writeEntry]
    | cons f entries =>
      rw [writeEntries, ih]
      · simp [joined, lead, writeEntry]
      · simp

/-! ## Items and entries -/

/-- Inside of `depth` sequences and maps the part is read where it is written, with fuel for more
characters than it has. -/
structure ReadBack (depth : Nat) (t : Tree) : Prop where
  /-- The part does not begin with space, nor with the end of a sequence. -/
  start : ∃ c cs, writeTree t = c :: cs ∧ isSpace c = false ∧ c ≠ ']'
  read : ∀ fuel rest, (writeTree t).length < fuel →
    readTree fuel depth (writeTree t ++ rest) = (t, some rest)

variable {depth fuel : Nat} {first : Bool} {t : Tree} {rest : List Char}

/-- At a closing bracket the items of a sequence end. -/
theorem readItems_close (rest : List Char) :
    readItems (fuel + 1) depth first (']' :: rest) = ([], .closed, some rest) := by
  rw [readItems.eq_def]
  simp only [skipSpace_cons (show isSpace ']' = false by decide)]

/-- An item that is read where it is written is followed by the items behind it. -/
theorem readItems_item {c : Char} {cs : List Char} (hspace : isSpace c = false) (hc : c ≠ ']')
    (h : readTree fuel depth (c :: cs) = (t, some rest)) :
    readItems (fuel + 1) depth first (lead first ++ c :: cs) =
      (t :: (readItems fuel depth false rest).1, (readItems fuel depth false rest).2) := by
  have hcs := skipSpace_cons hspace cs
  have hcomma := skipSpace_cons (show isSpace ',' = false by decide) (c :: cs)
  rw [readItems.eq_def]
  cases first with
  | true => simp [lead, hcs, hc, h]
  | false => simp [lead, hcomma, hcs, hc, h]

/-- Items are read up to the end of their sequence. Each takes one unit of fuel besides its own, and
is written with one character at least. -/
theorem readItems_joined {items : List Tree} (h : ∀ t ∈ items, ReadBack depth t)
    (hfuel : (joined first (items.map writeTree)).length + 1 < fuel) :
    readItems fuel depth first (joined first (items.map writeTree) ++ ']' :: rest) =
      (items, .closed, some rest) := by
  induction items generalizing fuel first with
  | nil =>
    obtain ⟨fuel, rfl⟩ := Nat.exists_eq_add_one_of_ne_zero (show fuel ≠ 0 by omega)
    exact readItems_close rest
  | cons t items ih =>
    obtain ⟨ht, hitems⟩ := List.forall_mem_cons.1 h
    obtain ⟨c, cs, hstart, hspace, hc⟩ := ht.start
    obtain ⟨fuel, rfl⟩ := Nat.exists_eq_add_one_of_ne_zero (show fuel ≠ 0 by omega)
    simp only [List.map_cons, joined, hstart, List.length_append, List.length_cons] at hfuel
    have hread := ht.read fuel (joined false (items.map writeTree) ++ ']' :: rest)
      (by rw [hstart, List.length_cons]; omega)
    have hrest := @ih fuel false hitems (by omega)
    rw [List.map_cons, joined, List.append_assoc, List.append_assoc, hstart, List.cons_append]
    rw [hstart, List.cons_append] at hread
    rw [readItems_item hspace hc hread, hrest]

/-- At a closing brace the entries of a map end. -/
theorem readEntries_close (rest : List Char) :
    readEntries (fuel + 1) depth first ('\x7d' :: rest) = ([], .closed, some rest) := by
  rw [readEntries.eq_def]
  simp only [skipSpace_cons (show isSpace '\x7d' = false by decide)]

/-- An entry whose value is read where it is written is followed by the entries behind it. -/
theorem readEntries_entry {key : String} {cs : List Char}
    (h : readTree fuel depth cs = (t, some rest)) :
    readEntries (fuel + 1) depth first (lead first ++ (writeString key ++ ':' :: cs)) =
      ((key, t) :: (readEntries fuel depth false rest).1,
        (readEntries fuel depth false rest).2) := by
  obtain ⟨body, hbody, hscan⟩ := scanString_writeString key (':' :: cs)
  have hquote := skipSpace_cons (show isSpace '"' = false by decide) body
  have hcolon := skipSpace_cons (show isSpace ':' = false by decide) cs
  have hcomma := skipSpace_cons (show isSpace ',' = false by decide) ('"' :: body)
  rw [hbody, readEntries.eq_def]
  cases first with
  | true => simp [lead, hquote, hscan, hcolon, h]
  | false => simp [lead, hcomma, hquote, hscan, hcolon, h]

/-- Entries are read up to the end of their map. -/
theorem readEntries_joined {entries : List (String × Tree)} (h : ∀ e ∈ entries, ReadBack depth e.2)
    (hfuel : (joined first (entries.map writeEntry)).length + 1 < fuel) :
    readEntries fuel depth first (joined first (entries.map writeEntry) ++ '\x7d' :: rest) =
      (entries, .closed, some rest) := by
  induction entries generalizing fuel first with
  | nil =>
    obtain ⟨fuel, rfl⟩ := Nat.exists_eq_add_one_of_ne_zero (show fuel ≠ 0 by omega)
    exact readEntries_close rest
  | cons e entries ih =>
    obtain ⟨he, hentries⟩ := List.forall_mem_cons.1 h
    obtain ⟨fuel, rfl⟩ := Nat.exists_eq_add_one_of_ne_zero (show fuel ≠ 0 by omega)
    simp only [List.map_cons, joined, writeEntry, List.length_append, List.length_cons] at hfuel
    have hread := he.read fuel (joined false (entries.map writeEntry) ++ '\x7d' :: rest) (by omega)
    have hrest := @ih fuel false hentries (by omega)
    rw [List.map_cons, joined, List.append_assoc, List.append_assoc, writeEntry,
      List.append_assoc, List.cons_append, readEntries_entry hread, hrest]

/-! ## Documents -/

/-- The empty value is read back. -/
theorem readBack_null : ReadBack depth .null := by
  refine ⟨⟨'n', _, rfl, by decide, by decide⟩, ?_⟩
  intro fuel rest hfuel
  obtain ⟨fuel, rfl⟩ := Nat.exists_eq_add_one_of_ne_zero (show fuel ≠ 0 by omega)
  rfl

/-- A text is read back. -/
theorem readBack_text (s : String) : ReadBack depth (.text s) := by
  refine ⟨⟨'"', _, rfl, by decide, by decide⟩, ?_⟩
  intro fuel rest hfuel
  obtain ⟨fuel, rfl⟩ := Nat.exists_eq_add_one_of_ne_zero (show fuel ≠ 0 by omega)
  obtain ⟨body, hbody, hscan⟩ := scanString_writeString s rest
  rw [writeTree, hbody, readTree.eq_def]
  simp only [skipSpace_cons (show isSpace '"' = false by decide), hscan]

/-- A part that is not nested too deeply is taken as it is. -/
theorem nested_of_le {n : Nat} (h : n ≤ deepest) (t : Tree) (rest : Option (List Char)) :
    nested n t rest = (t, rest) := by
  apply if_neg
  omega

/-- A sequence is read back if its items are, one level further inside. -/
theorem readBack_list {items : List Tree} (h : ∀ t ∈ items, ReadBack (depth + 1) t)
    (hdepth : depth + 1 ≤ deepest) : ReadBack depth (.list items) := by
  refine ⟨⟨'[', _, rfl, by decide, by decide⟩, ?_⟩
  intro fuel rest hfuel
  obtain ⟨fuel, rfl⟩ := Nat.exists_eq_add_one_of_ne_zero (show fuel ≠ 0 by omega)
  rw [Tree.list, writeTree, writeItems_eq] at hfuel ⊢
  simp only [List.length_append, List.length_cons, List.length_nil] at hfuel
  have hitems := @readItems_joined (depth + 1) fuel true rest items h (by omega)
  rw [List.cons_append, List.cons_append, List.append_assoc, List.cons_append, List.nil_append,
    readTree.eq_def]
  simp only [skipSpace_cons (show isSpace '[' = false by decide), hitems, nested_of_le hdepth]

/-- A map is read back if its values are, one level further inside. -/
theorem readBack_record {entries : List (String × Tree)}
    (h : ∀ e ∈ entries, ReadBack (depth + 1) e.2) (hdepth : depth + 1 ≤ deepest) :
    ReadBack depth (.record entries) := by
  refine ⟨⟨'\x7b', _, rfl, by decide, by decide⟩, ?_⟩
  intro fuel rest hfuel
  obtain ⟨fuel, rfl⟩ := Nat.exists_eq_add_one_of_ne_zero (show fuel ≠ 0 by omega)
  rw [Tree.record, writeTree, writeEntries_eq] at hfuel ⊢
  simp only [List.length_append, List.length_cons, List.length_nil] at hfuel
  have hentries := @readEntries_joined (depth + 1) fuel true rest entries h (by omega)
  rw [List.cons_append, List.cons_append, List.append_assoc, List.cons_append, List.nil_append,
    readTree.eq_def]
  simp only [skipSpace_cons (show isSpace '\x7b' = false by decide), hentries, nested_of_le hdepth]

end Json

/-- The tree is put together of nothing, texts, closed sequences and closed maps, and at most
`height` sequences and maps of it stand inside each other. -/
inductive Tree.Plain : Nat → Tree → Prop
  | null {height : Nat} : Plain height .null
  | text {height : Nat} (s : String) : Plain height (.text s)
  | list {height : Nat} {items : List Tree} (h : ∀ t ∈ items, Plain height t) :
    Plain (height + 1) (.list items)
  | record {height : Nat} {entries : List (String × Tree)} (h : ∀ e ∈ entries, Plain height e.2) :
    Plain (height + 1) (.record entries)

namespace Json

variable {depth height : Nat} {t : Tree}

/-- A plain tree is read back as far inside as its height allows. -/
theorem readBack_of_plain (h : t.Plain height) (hdepth : depth + height ≤ deepest) :
    ReadBack depth t := by
  induction h generalizing depth with
  | null => exact readBack_null
  | text s => exact readBack_text s
  | list h ih => exact readBack_list (fun u hu => ih u hu (by omega)) (by omega)
  | record h ih => exact readBack_record (fun e he => ih e he (by omega)) (by omega)

/-- What is written of a plain tree is read as this tree, and nothing follows it. -/
theorem read_write (h : t.Plain height) (hheight : height ≤ deepest) :
    read (write t) = (t, true) := by
  have hback : ReadBack 0 t := readBack_of_plain h (by omega)
  have hread := hback.read ((writeTree t).length + 1) [] (Nat.lt_succ_self _)
  rw [List.append_nil] at hread
  simp only [read, write, String.toList_ofList, hread]
  rfl

end Json

end WebAccess.Document
