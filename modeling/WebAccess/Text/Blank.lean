import WebAccess.Text.CodeRange

/-!
# Blanks

White space in the sense of the Unicode property *White_Space*. A setting that holds nothing else
counts as not given, so most of the checks on settings start here.
-/

set_option autoImplicit false

namespace WebAccess.Text

/-- The code points with the property *White_Space*. -/
def blankRanges : Array CodeRange := #[
  (0x9, 0xd), (0x20, 0x20), (0x85, 0x85), (0xa0, 0xa0), (0x1680, 0x1680), (0x2000, 0x200a),
  (0x2028, 0x2029), (0x202f, 0x202f), (0x205f, 0x205f), (0x3000, 0x3000)]

/-- True if `c` is white space. -/
def isBlank (c : Char) : Bool :=
  inRanges blankRanges c

/-- The text without the blanks at its end. -/
def trimRight (cs : List Char) : List Char :=
  (cs.reverse.dropWhile isBlank).reverse

/-- The text without the blanks at its two ends. -/
def trim (cs : List Char) : List Char :=
  trimRight (cs.dropWhile isBlank)

/-- The text without the blanks at its two ends. -/
def trimmed (s : String) : String :=
  String.ofList (trim s.toList)

/-- True if the text holds nothing but blanks. -/
def allBlank (s : String) : Bool :=
  s.toList.all isBlank

/-- Nothing stays of a text without its leading blanks exactly if it is all blanks. -/
theorem dropWhile_isBlank_eq_nil_iff (cs : List Char) :
    cs.dropWhile isBlank = [] ↔ ∀ c ∈ cs, isBlank c = true := by
  induction cs with
  | nil => simp
  | cons c cs ih => cases h : isBlank c <;> simp [h, ih]

/-- A text is all blanks if what stays of it without its leading blanks is. -/
theorem isBlank_of_mem_dropWhile {cs : List Char}
    (h : ∀ c ∈ cs.dropWhile isBlank, isBlank c = true) :
    ∀ c ∈ cs, isBlank c = true := by
  induction cs with
  | nil => simp
  | cons c cs ih =>
    cases hc : isBlank c with
    | true =>
      rw [List.dropWhile_cons_of_pos hc] at h
      simpa [hc] using ih h
    | false =>
      rw [List.dropWhile_cons_of_neg (by simp [hc])] at h
      exact h

/-- A text without blanks at its ends is empty exactly if it holds nothing but blanks. -/
theorem trim_eq_nil_iff (cs : List Char) : trim cs = [] ↔ ∀ c ∈ cs, isBlank c = true := by
  rw [trim, trimRight, List.reverse_eq_nil_iff, dropWhile_isBlank_eq_nil_iff]
  simp only [List.mem_reverse]
  exact ⟨isBlank_of_mem_dropWhile, fun h c hc => h c ((List.dropWhile_sublist isBlank).subset hc)⟩

end WebAccess.Text
