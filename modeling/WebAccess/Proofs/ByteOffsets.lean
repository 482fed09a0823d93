import Mathlib.Tactic.SplitIfs
import WebAccess.Proofs.PathCuts

/-!
# Cutting an identifier at byte offsets

A text is stored as bytes, and where a program cuts one it names offsets into these bytes. An offset
inside of a character is no place to cut. Here the container of an identifier is found in this way
(`Identifier.parentByOffsets`): the marks are searched among the bytes, and each cut may fail. None
does, and the container that is found is the one that is cut from the characters
(`Identifier.parentByOffsets_eq`).

All marks are characters of one byte, and no byte of another character equals that byte
(`Identifier.mem_utf8EncodeChar_iff`). So a search among the bytes stops where the search among the
characters does, and the offset is the length of what was passed.
-/

set_option autoImplicit false

namespace WebAccess

namespace Identifier

/-! ## Searches and cuts -/

/-- The offset of the first place where the bytes go on with the pattern. -/
def findBytes? (pattern : List UInt8) : List UInt8 → Option Nat
  | [] => none
  | b :: bs => if pattern <+: b :: bs then some 0 else (findBytes? pattern bs).map (· + 1)

/-- The offset of the last byte that is `a`. -/
def findLastByte? (a : UInt8) : List UInt8 → Option Nat
  | [] => none
  | b :: bs =>
    match findLastByte? a bs with
    | some i => some (i + 1)
    | none => if b = a then some 0 else none

/-- The text before an offset into its bytes and the text from there on; nothing if the offset is
not at the boundary of a character. -/
def cutAt? (s : String) (offset : Nat) : Option (String × String) :=
  if h : String.Pos.Raw.IsValid s ⟨offset⟩ then
    some ((s.sliceTo (s.pos ⟨offset⟩ h)).copy, (s.sliceFrom (s.pos ⟨offset⟩ h)).copy)
  else none

/-- The bytes of a text. -/
def bytes (s : String) : List UInt8 := s.toByteArray.data.toList

/-- The byte of a slash. -/
def slashByte : UInt8 := 0x2f

/-- The bytes of `://`. -/
def markBytes : List UInt8 := [0x3a, slashByte, slashByte]

/-- The offset of the slash that ends the root, if there is one. It is searched behind the first
`://`, where there is a mark. -/
def rootEnd? (id : Identifier) : Option (Option Nat) :=
  match findBytes? markBytes (bytes id) with
  | some i => do
    let (_, rest) ← cutAt? id (i + 3)
    return (findBytes? [slashByte] (bytes rest)).map (i + 3 + ·)
  | none => some (findBytes? [slashByte] (bytes id))

/-- The container of an identifier, found by searches among its bytes and cuts at byte offsets.
There is no answer if one of the cuts fails. -/
def parentByOffsets (id : Identifier) : Option (Option Identifier) := do
  match ← rootEnd? id with
  | none => return none
  | some rootEnd =>
    let (root, path) ← cutAt? id (rootEnd + 1)
    let path := String.ofList (dropTrailingSlash path.toList)
    if path = "" then return none
    match findLastByte? slashByte (bytes path) with
    | none => return some root
    | some i =>
      let (front, _) ← cutAt? path i
      return some (root ++ front)

/-! ## Bytes of characters -/

/-- The bytes of characters. -/
def encode (cs : List Char) : List UInt8 := cs.flatMap String.utf8EncodeChar

variable {cs front rest : List Char}

/-- The bytes of a text are those of its characters. -/
theorem bytes_ofList (cs : List Char) : bytes (String.ofList cs) = encode cs := by
  rw [bytes, String.toByteArray_ofList, List.utf8Encode, List.toList_data_toByteArray, encode]

/-- Characters have as many bytes as the text that they make up. -/
theorem length_encode (cs : List Char) :
    (encode cs).length = (String.ofList cs).utf8ByteSize := by
  rw [← String.size_toByteArray, ← bytes_ofList]
  rfl

/-- The bytes of two texts in sequence are the bytes of the first, then those of the second. -/
theorem encode_append : encode (front ++ rest) = encode front ++ encode rest :=
  List.flatMap_append

/-- No characters have no bytes. -/
theorem encode_nil : encode [] = [] := rfl

/-- A slash is one byte. -/
theorem encode_cons_slash (cs : List Char) : encode ('/' :: cs) = slashByte :: encode cs := rfl

/-- The bytes of a text are those of its first character and those of the rest. -/
theorem length_encode_cons (c : Char) (cs : List Char) :
    (encode (c :: cs)).length = (String.utf8EncodeChar c).length + (encode cs).length := by
  rw [encode, List.flatMap_cons, List.length_append]
  rfl

/-- The byte of an ASCII character stands for nothing else. -/
theorem mem_utf8EncodeChar_iff {a c : Char} (ha : a.toNat < 128) :
    UInt8.ofNat a.toNat ∈ String.utf8EncodeChar c ↔ c = a := by
  have hbyte : ∀ n : Nat, UInt8.ofNat a.toNat = UInt8.ofNat n ↔ a.toNat = n % 256 := by
    intro n
    rw [← UInt8.toNat_inj, UInt8.toNat_ofNat', UInt8.toNat_ofNat']
    omega
  have hchar : c = a ↔ c.val.toNat = a.toNat := by
    rw [← Char.toNat_inj]
    rfl
  rw [hchar]
  simp only [String.utf8EncodeChar]
  split_ifs
  all_goals
    simp only [List.mem_cons, List.not_mem_nil, or_false, hbyte]
    omega

/-- The byte of a slash is among the bytes of a text exactly if the text has a slash. -/
theorem slashByte_mem_encode_iff : slashByte ∈ encode cs ↔ '/' ∈ cs := by
  have hchar : ∀ c, slashByte ∈ String.utf8EncodeChar c ↔ c = '/' :=
    fun c => @mem_utf8EncodeChar_iff '/' c (by decide)
  simp [encode, hchar]

/-- A character below 128 is the one byte with its number. -/
theorem encode_cons {a : Char} (ha : a.toNat < 128) (cs : List Char) :
    encode (a :: cs) = UInt8.ofNat a.toNat :: encode cs := by
  have hbyte : String.utf8EncodeChar a = [UInt8.ofNat a.toNat] := if_pos (Nat.le_of_lt_succ ha)
  rw [encode, List.flatMap_cons, hbyte]
  rfl

/-- Bytes that begin with that of a character below 128 begin a text exactly if the text begins with
this character and goes on with the rest of the bytes. -/
theorem cons_prefix_encode_iff {a : Char} (ha : a.toNat < 128) {bs : List UInt8} :
    UInt8.ofNat a.toNat :: bs <+: encode cs ↔ ∃ rest, cs = a :: rest ∧ bs <+: encode rest := by
  constructor
  · intro h
    cases cs with
    | nil => exact absurd (List.eq_nil_of_prefix_nil h) (List.cons_ne_nil _ _)
    | cons c cs =>
      -- A character has bytes, so the first byte is one of `c`.
      have hmem : UInt8.ofNat a.toNat ∈ String.utf8EncodeChar c := by
        obtain ⟨more, hmore⟩ := h
        cases hc : String.utf8EncodeChar c with
        | nil => exact absurd hc String.utf8EncodeChar_ne_nil
        | cons b bs' =>
          rw [encode, List.flatMap_cons, hc, List.cons_append, List.cons_append] at hmore
          obtain ⟨rfl, -⟩ := List.cons.inj hmore
          exact List.mem_cons_self
      obtain rfl := (mem_utf8EncodeChar_iff ha).1 hmem
      rw [encode_cons ha, List.cons_prefix_cons] at h
      exact ⟨cs, rfl, h.2⟩
  · rintro ⟨rest, rfl, h⟩
    rw [encode_cons ha, List.cons_prefix_cons]
    exact ⟨rfl, h⟩

/-- The bytes of a mark stand in front exactly where the mark does. -/
theorem markBytes_prefix_encode_iff : markBytes <+: encode cs ↔ schemeMark <+: cs := by
  constructor
  · intro h
    obtain ⟨rest, rfl, hsecond⟩ := (@cons_prefix_encode_iff cs ':' (by decide) _).1 h
    obtain ⟨rest, rfl, hthird⟩ := (@cons_prefix_encode_iff rest '/' (by decide) _).1 hsecond
    obtain ⟨rest, rfl, -⟩ := (@cons_prefix_encode_iff rest '/' (by decide) _).1 hthird
    exact ⟨rest, rfl⟩
  · rintro ⟨rest, rfl⟩
    exact ⟨encode rest, rfl⟩

/-! ## Searches among bytes -/

variable {a : UInt8} {pattern bs more : List UInt8}

/-- Bytes that cannot begin the pattern are passed. -/
theorem findBytes?_append (h : a ∉ bs) :
    findBytes? (a :: pattern) (bs ++ more) =
      (findBytes? (a :: pattern) more).map (· + bs.length) := by
  induction bs with
  | nil => simp
  | cons b bs ih =>
    rw [List.mem_cons, not_or] at h
    have hstart : ¬a :: pattern <+: b :: (bs ++ more) := by
      rw [List.cons_prefix_cons]
      exact fun hprefix => h.1 hprefix.1
    rw [List.cons_append, findBytes?, if_neg hstart, ih h.2, Option.map_map]
    congr 1

/-- A pattern with which the bytes begin is found at their beginning. -/
theorem findBytes?_of_isPrefix (h : a :: pattern <+: bs) :
    findBytes? (a :: pattern) bs = some 0 := by
  cases bs with
  | nil => exact absurd (List.eq_nil_of_prefix_nil h) (List.cons_ne_nil _ _)
  | cons b bs => rw [findBytes?, if_pos h]

/-- A byte that does not occur is not found. -/
theorem findLastByte?_of_not_mem (h : a ∉ bs) : findLastByte? a bs = none := by
  induction bs with
  | nil => rfl
  | cons b bs ih =>
    rw [List.mem_cons, not_or] at h
    rw [findLastByte?, ih h.2]
    exact if_neg (Ne.symm h.1)

/-- The last place of a byte is the one behind which it does not occur again. -/
theorem findLastByte?_append (h : a ∉ more) :
    findLastByte? a (bs ++ a :: more) = some bs.length := by
  induction bs with
  | nil => simp [findLastByte?, findLastByte?_of_not_mem h]
  | cons b bs ih => simp [findLastByte?, ih]

/-- A text without a slash is not cut. -/
theorem splitSlash_of_not_mem (h : '/' ∉ cs) : splitSlash cs = none := by
  induction cs with
  | nil => rfl
  | cons c cs ih =>
    rw [List.mem_cons, not_or] at h
    rw [splitSlash, if_neg (Ne.symm h.1), ih h.2]
    rfl

/-- The offset behind the first slash is the length of the text up to it. -/
theorem findBytes?_slash (cs : List Char) :
    (findBytes? [slashByte] (encode cs)).map (· + 1) =
      (splitSlash cs).map fun p => (encode p.1).length := by
  by_cases h : '/' ∈ cs
  · obtain ⟨front, rest, rfl, hfront⟩ := List.eq_append_cons_of_mem h
    have hpassed : slashByte ∉ encode front := mt slashByte_mem_encode_iff.1 hfront
    have hfound : [slashByte] <+: encode ('/' :: rest) := ⟨encode rest, rfl⟩
    rw [splitSlash_append hfront, encode_append, findBytes?_append hpassed,
      findBytes?_of_isPrefix hfound]
    simp [encode_append, encode_cons, encode_nil]
  · have hpassed : slashByte ∉ encode cs := mt slashByte_mem_encode_iff.1 h
    have hnone := @findBytes?_append slashByte [] (encode cs) [] hpassed
    rw [List.append_nil] at hnone
    rw [hnone, splitSlash_of_not_mem h]
    rfl

/-- The offset behind the first mark is the length of the text up to it. -/
theorem findBytes?_mark (cs : List Char) :
    (findBytes? markBytes (encode cs)).map (· + 3) =
      (splitScheme cs).map fun p => (encode p.1).length := by
  induction cs with
  | nil => rfl
  | cons c cs ih =>
    by_cases h : c = ':' ∧ cs.take 2 = ['/', '/']
    · have hstart := markBytes_prefix_encode_iff.2 (starts_with_mark_iff.1 h)
      rw [splitScheme, if_pos h, markBytes, findBytes?_of_isPrefix hstart]
      rfl
    · have hstep : findBytes? markBytes (encode (c :: cs)) =
          (findBytes? markBytes (encode cs)).map (· + (String.utf8EncodeChar c).length) := by
        -- A colon is one byte, and may begin a mark; any other character is passed as a whole.
        by_cases hc : c = ':'
        · subst hc
          have hstart : ¬markBytes <+: encode (':' :: cs) := fun hprefix =>
            h (starts_with_mark_iff.2 (markBytes_prefix_encode_iff.1 hprefix))
          rw [encode_cons (by decide)] at hstart ⊢
          rw [findBytes?, if_neg hstart]
          rfl
        · have hpassed : 0x3a ∉ String.utf8EncodeChar c :=
            fun hmem => hc ((@mem_utf8EncodeChar_iff ':' c (by decide)).1 hmem)
          exact findBytes?_append hpassed
      rw [splitScheme, if_neg h, hstep]
      calc ((findBytes? markBytes (encode cs)).map
              (· + (String.utf8EncodeChar c).length)).map (· + 3)
          = ((findBytes? markBytes (encode cs)).map (· + 3)).map
              ((String.utf8EncodeChar c).length + ·) := by
            rw [Option.map_map, Option.map_map]
            congr 1
            funext i
            simp only [Function.comp_apply]
            omega
        _ = ((splitScheme cs).map fun p => (encode p.1).length).map
              ((String.utf8EncodeChar c).length + ·) := by rw [ih]
        _ = ((splitScheme cs).map fun p => (c :: p.1, p.2)).map fun p => (encode p.1).length := by
            rw [Option.map_map, Option.map_map]
            congr 1
            funext p
            exact (length_encode_cons c p.1).symm

/-! ## The container -/

/-- A cut behind what the text begins with succeeds. -/
theorem cutAt?_encode (front rest : List Char) :
    cutAt? (String.ofList (front ++ rest)) (encode front).length =
      some (String.ofList front, String.ofList rest) := by
  have hvalid : String.Pos.Raw.IsValid (String.ofList (front ++ rest)) ⟨(encode front).length⟩ := by
    rw [String.Pos.Raw.isValid_iff_exists_append]
    refine ⟨String.ofList front, String.ofList rest, String.ofList_append, ?_⟩
    rw [length_encode]
    rfl
  have hsplits : ((String.ofList (front ++ rest)).pos _ hvalid).Splits
      (String.ofList front) (String.ofList rest) := by
    refine ⟨String.ofList_append, ?_⟩
    rw [String.offset_pos, length_encode]
    rfl
  obtain ⟨hbefore, hafter⟩ := (String.Pos.splits _).eq hsplits
  rw [cutAt?, dif_pos hvalid, hbefore, hafter]

/-- The search for the end of the root meets no cut within a character, and it ends where the root
among the characters ends. -/
theorem rootEnd?_eq (cs : List Char) :
    ∃ rootEnd, rootEnd? (String.ofList cs) = some rootEnd ∧
      rootEnd.map (· + 1) = (splitRoot cs).map fun p => (encode p.1).length := by
  have hmark := findBytes?_mark cs
  unfold rootEnd?
  rw [bytes_ofList]
  cases hfind : findBytes? markBytes (encode cs) with
  | none =>
    rw [hfind, Option.map_none, eq_comm, Option.map_eq_none_iff] at hmark
    refine ⟨_, rfl, ?_⟩
    rw [findBytes?_slash, splitRoot, hmark]
  | some i =>
    rw [hfind, Option.map_some, eq_comm, Option.map_eq_some_iff] at hmark
    obtain ⟨⟨front, rest⟩, hscheme, hlength⟩ := hmark
    have hcut := cutAt?_encode front rest
    rw [append_of_splitScheme hscheme, hlength] at hcut
    have hslash := findBytes?_slash rest
    rw [← bytes_ofList] at hslash
    refine ⟨(findBytes? [slashByte] (bytes (String.ofList rest))).map (i + 3 + ·), ?_, ?_⟩
    · simp [hcut]
    · have hbehind : ∀ found : Option Nat, (found.map (i + 3 + ·)).map (· + 1) =
          (found.map (· + 1)).map ((encode front).length + ·) := by
        intro found
        rw [Option.map_map, Option.map_map]
        congr 1
        funext j
        exact congrArg (· + (j + 1)) hlength.symm
      simp [splitRoot, hscheme, hbehind, hslash, encode_append, Function.comp_def]

/-- Before the last slash, whose offset is found, stands what is kept of a path. -/
theorem findLastByte?_slash (path : List Char) :
    (findLastByte? slashByte (encode path) = none ∧ beforeLastSlash path = []) ∨
      ∃ i rest, findLastByte? slashByte (encode path) = some i ∧
        cutAt? (String.ofList path) i = some (String.ofList (beforeLastSlash path), rest) := by
  rcases beforeLastSlash_cases path with ⟨segment, hsegment, hpath⟩ | ⟨hno, hnil⟩
  · have hpassed : slashByte ∉ encode segment := mt slashByte_mem_encode_iff.1 hsegment
    have hlast := @findLastByte?_append slashByte (encode (beforeLastSlash path)) _ hpassed
    have hcut := cutAt?_encode (beforeLastSlash path) ('/' :: segment)
    rw [← encode_cons_slash, ← encode_append, ← hpath] at hlast
    rw [← hpath] at hcut
    exact .inr ⟨_, _, hlast, hcut⟩
  · exact .inl ⟨findLastByte?_of_not_mem (mt slashByte_mem_encode_iff.1 hno), hnil⟩

/-- No cut fails, and what is found is the container. -/
theorem parentByOffsets_eq (id : Identifier) : parentByOffsets id = some (parent? id) := by
  obtain ⟨cs, rfl⟩ : ∃ cs, id = String.ofList cs := ⟨id.toList, by rw [String.ofList_toList]⟩
  obtain ⟨rootEnd, hend, hlength⟩ := rootEnd?_eq cs
  rw [parentByOffsets, hend, Option.bind_eq_bind, Option.bind_some]
  cases hroot : splitRoot cs with
  | none =>
    rw [hroot, Option.map_none, Option.map_eq_none_iff] at hlength
    rw [hlength, parent?, String.toList_ofList, parentChars, hroot]
    rfl
  | some p =>
    obtain ⟨root, path⟩ := p
    rw [hroot, Option.map_some, Option.map_eq_some_iff] at hlength
    obtain ⟨rootEnd, rfl, hlength⟩ := hlength
    have hcut := cutAt?_encode root path
    rw [append_of_splitRoot hroot, ← hlength] at hcut
    simp only [hcut, Option.bind_eq_bind, Option.bind_some, String.toList_ofList]
    by_cases hempty : dropTrailingSlash path = []
    · rw [parent?_ofList_eq_none hroot hempty, hempty]
      rfl
    · have hne : String.ofList (dropTrailingSlash path) ≠ "" := by simpa using hempty
      rw [parent?_ofList_eq_some hroot hempty, if_neg hne, bytes_ofList]
      rcases findLastByte?_slash (dropTrailingSlash path) with ⟨hnone, hnil⟩ | ⟨i, rest, hi, hfront⟩
      · rw [hnone, hnil, List.append_nil]
        rfl
      · rw [hi, String.ofList_append]
        simp only [hfront, Option.bind_some, Option.pure_def]

end Identifier

end WebAccess
