import Mathlib.Data.List.Infix
import WebAccess.Cache
import WebAccess.Proofs.ByteOffsets

/-!
# The texts of cache keys

The text of a key begins with the length of its identifier and goes on with parts that are written
as they are, whatever marks they hold. It is read back part by part (`CacheKey.ofText?`). The digits
end at the first colon, because no digit is one; they are the only ones that stand for this length;
and since the length counts bytes, the identifier behind the colon is cut off where it ends and not
inside of a character. None of these steps has a choice, so a text is read as a key exactly if it is
the text of this key (`CacheKey.ofText?_eq_some_iff`).

Main statement: `CacheKey.text_determines_key`.
-/

set_option autoImplicit false

namespace WebAccess

namespace Identifier

/-- A text is cut at an offset into two exactly if it is made of them and the offset is the length
of the first. -/
theorem cutAt?_eq_some_iff {text front rest : String} {offset : Nat} :
    cutAt? text offset = some (front, rest) ↔
      text = front ++ rest ∧ front.utf8ByteSize = offset := by
  constructor
  · intro h
    obtain ⟨hvalid, hparts⟩ := Option.dite_none_right_eq_some.1 h
    obtain ⟨rfl, rfl⟩ := Prod.mk.inj (Option.some.inj hparts)
    have hsplits := (text.pos ⟨offset⟩ hvalid).splits
    refine ⟨hsplits.eq_append, ?_⟩
    exact (congrArg String.Pos.Raw.byteIdx hsplits.offset_eq_rawEndPos).symm
  · rintro ⟨rfl, rfl⟩
    have hcut := cutAt?_encode front.toList rest.toList
    rwa [length_encode, String.ofList_append, String.ofList_toList, String.ofList_toList] at hcut

end Identifier

namespace CacheKey

/-! ## Reading -/

/-- The text in front of the first colon and the text behind it. -/
def splitColon : List Char → Option (List Char × List Char)
  | [] => none
  | c :: cs => if c = ':' then some ([], cs) else (splitColon cs).map fun p => (c :: p.1, p.2)

/-- The number of which these are the decimal digits, without a zero in front. -/
def ofDigits? (digits : List Char) : Option Nat :=
  let n := Nat.ofDigitChars 10 digits 0
  if Nat.toDigits 10 n = digits then some n else none

/-- The key of which this is the text. -/
def ofText? (text : String) : Option CacheKey := do
  let (digits, behind) ← splitColon text.toList
  let length ← ofDigits? digits
  let (identifier, rest) ← Identifier.cutAt? (String.ofList behind) length
  let agent ← rest.toList.dropPrefix? ['|', '|']
  return ⟨identifier, String.ofList agent⟩

variable {cs digits front rest : List Char} {n : Nat} {text : String} {key : CacheKey}

/-- A text is cut at a colon in front of which there is none. -/
theorem splitColon_append (h : ':' ∉ front) :
    splitColon (front ++ ':' :: rest) = some (front, rest) := by
  induction front with
  | nil => rfl
  | cons c front ih =>
    rw [List.mem_cons, not_or] at h
    rw [List.cons_append, splitColon, if_neg (Ne.symm h.1), ih h.2, Option.map_some]

/-- The parts of a cut text, with the colon between them, make up the text. -/
theorem append_of_splitColon (h : splitColon cs = some (front, rest)) :
    cs = front ++ ':' :: rest := by
  induction cs generalizing front with
  | nil => cases h
  | cons c cs ih =>
    rw [splitColon] at h
    split_ifs at h with hc
    · obtain ⟨rfl, rfl⟩ := Prod.mk.inj (Option.some.inj h)
      rw [hc, List.nil_append]
    · obtain ⟨⟨before, behind⟩, hcs, hparts⟩ := Option.map_eq_some_iff.1 h
      obtain ⟨rfl, rfl⟩ := Prod.mk.inj hparts
      rw [ih hcs, List.cons_append]

/-- Digits are read as a number exactly if they are the ones with which it is written. -/
theorem ofDigits?_eq_some_iff : ofDigits? digits = some n ↔ Nat.toDigits 10 n = digits := by
  rw [ofDigits?, Option.ite_none_right_eq_some, Option.some_inj]
  constructor
  · rintro ⟨hdigits, rfl⟩
    exact hdigits
  · rintro rfl
    rw [Nat.ofDigitChars_ten_toDigits]
    exact ⟨rfl, rfl⟩

/-- No number is written with a colon. -/
theorem colon_notMem_toDigits (n : Nat) : ':' ∉ Nat.toDigits 10 n := by
  intro h
  have hdigit : ':'.isDigit = true := Nat.isDigit_of_mem_toDigits (by decide) (by decide) h
  exact absurd hdigit (by decide)

/-- The text of a key is the number of bytes of its identifier, a colon, the identifier, two bars
and the agent. -/
theorem toList_render (key : CacheKey) :
    key.render.toList = Nat.toDigits 10 key.identifier.utf8ByteSize ++
      ':' :: (key.identifier.toList ++ (['|', '|'] ++ key.agent.toList)) := by
  rw [render, String.toList_append, String.toList_append, String.toList_append,
    String.toList_append, Nat.toString_eq_ofList_toDigits, String.toList_ofList]
  simp only [List.append_assoc]
  rfl

/-- A text is read as a key exactly if it is the text of this key. -/
theorem ofText?_eq_some_iff : ofText? text = some key ↔ text = key.render := by
  constructor
  · intro h
    obtain ⟨⟨digits, behind⟩, hsplit, h⟩ := Option.bind_eq_some_iff.1 h
    obtain ⟨length, hlength, h⟩ := Option.bind_eq_some_iff.1 h
    obtain ⟨⟨identifier, rest⟩, hcut, h⟩ := Option.bind_eq_some_iff.1 h
    obtain ⟨agent, hagent, h⟩ := Option.bind_eq_some_iff.1 h
    obtain rfl := Option.some.inj h
    obtain rfl := ofDigits?_eq_some_iff.1 hlength
    obtain ⟨hbehind, rfl⟩ := Identifier.cutAt?_eq_some_iff.1 hcut
    obtain ⟨bars, hrest, hbars⟩ := List.dropPrefix?_eq_some_iff.1 hagent
    obtain rfl := eq_of_beq hbars
    have hparts : behind = identifier.toList ++ (['|', '|'] ++ agent) := by
      rw [← hrest, ← String.toList_append, ← hbehind, String.toList_ofList]
    rw [← String.toList_inj, toList_render, append_of_splitColon hsplit, hparts,
      String.toList_ofList]
  · rintro rfl
    have hcut : Identifier.cutAt?
        (String.ofList (key.identifier.toList ++ (['|', '|'] ++ key.agent.toList)))
        key.identifier.utf8ByteSize =
          some (key.identifier, String.ofList (['|', '|'] ++ key.agent.toList)) := by
      rw [Identifier.cutAt?_eq_some_iff, String.ofList_append, String.ofList_toList]
      exact ⟨rfl, rfl⟩
    have hagent : (['|', '|'] ++ key.agent.toList).dropPrefix? ['|', '|'] =
        some key.agent.toList := List.dropPrefix?_eq_some_iff.2 ⟨_, rfl, beq_self_eq_true _⟩
    rw [ofText?, toList_render, splitColon_append (colon_notMem_toDigits _)]
    simp only [Option.bind_eq_bind, Option.bind_some, ofDigits?_eq_some_iff.2 rfl, hcut,
      String.toList_ofList, hagent, String.ofList_toList]
    rfl

/-- Two keys have the same text only if they have the same identifier and the same agent, whatever
these are; and a key is read back from its own text and from no other. -/
theorem text_determines_key (a b c d : String) :
    ((mk a b).render = (mk c d).render ↔ a = c ∧ b = d) ∧
      ∀ text, ofText? text = some (mk a b) ↔ text = (mk a b).render := by
  refine ⟨⟨fun h => ?_, ?_⟩, fun text => ofText?_eq_some_iff⟩
  · have hread : ofText? (mk a b).render = some (mk c d) := ofText?_eq_some_iff.2 h
    rw [ofText?_eq_some_iff.2 rfl] at hread
    exact CacheKey.mk.inj (Option.some.inj hread)
  · rintro ⟨rfl, rfl⟩
    rfl

/-- The length decides which bars are those between the two parts. -/
example : ofText? "2:/a||b||c" = some ⟨"/a", "b||c"⟩ ∧
    ofText? "5:/a||b||c" = some ⟨"/a||b", "c"⟩ := by
  decide +kernel

end CacheKey

end WebAccess
