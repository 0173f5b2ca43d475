/-!
# Blank characters and trimming

The blank class is the Unicode `White_Space` property: the ASCII controls
tab through carriage return, space, next line, no-break space, ogham space
mark, the spaces from en quad to hair space, the line and paragraph
separators, narrow no-break space, medium mathematical space and the
ideographic space. Core's `Char.isWhitespace` knows only part of it, so the
class is written out here as ranges of code points.

`trim` drops blanks at both ends of a text. Reference tokens and cookie
pairs are trimmed with it before they are read.
-/

namespace Warden.Text

-- ============================================================ the class

/-- The code points of the `White_Space` property, as closed ranges. -/
def blankRanges : List (Nat × Nat) :=
  [(0x09, 0x0D), (0x20, 0x20), (0x85, 0x85), (0xA0, 0xA0), (0x1680, 0x1680),
   (0x2000, 0x200A), (0x2028, 0x2029), (0x202F, 0x202F), (0x205F, 0x205F),
   (0x3000, 0x3000)]

/-- A character is blank when its code point lies in one of `blankRanges`. -/
def isBlank (c : Char) : Bool :=
  blankRanges.any fun r => r.1 ≤ c.toNat && c.toNat ≤ r.2

/-- Every character that core calls whitespace is blank here too. -/
theorem isBlank_of_isWhitespace (c : Char) (h : c.isWhitespace = true) :
    isBlank c = true := by
  simp only [Char.isWhitespace, Bool.or_eq_true, decide_eq_true_eq] at h
  rcases h with ((h | h) | h) | h <;>
    simp [isBlank, blankRanges, h]

-- ============================================================ trimming

/-- The characters left after dropping blanks at the front. -/
def dropBlanks : List Char → List Char
  | [] => []
  | c :: cs => if isBlank c then dropBlanks cs else c :: cs

/-- A list of characters without blanks at either end. -/
def trimChars (cs : List Char) : List Char :=
  (dropBlanks (dropBlanks cs).reverse).reverse

/-- A text without blanks at either end. -/
def trim (s : String) : String :=
  String.ofList (trimChars s.toList)

theorem dropBlanks_append_of_all (w r : List Char) (hw : ∀ c ∈ w, isBlank c = true) :
    dropBlanks (w ++ r) = dropBlanks r := by
  induction w with
  | nil => rfl
  | cons c w ih =>
    simp only [List.cons_append, dropBlanks, hw c (by simp), if_true]
    exact ih fun d hd => hw d (by simp [hd])

theorem dropBlanks_of_head (c : Char) (r : List Char) (h : isBlank c = false) :
    dropBlanks (c :: r) = c :: r := by
  simp [dropBlanks, h]

end Warden.Text
