/-!
# Header fields

A request carries header fields in order, and a name may repeat. Names are
compared without regard to ASCII case. A value is text whose bytes are
neither controls (tab apart) nor DEL; a value can be read as plain text only
when every byte of it is visible ASCII, a space or a tab.
-/

namespace Warden.Http

/-- Header fields in the order they came, each a name and a value. -/
abbrev Headers := List (String × String)

/-- A character may stand in a header value: it is a tab, or no control
    character and not DEL. Characters beyond ASCII are bytes of 0x80 and
    above, which a value may hold. -/
def valueChar (c : Char) : Bool :=
  c == '\t' || (0x20 ≤ c.toNat && c.toNat != 0x7F)

/-- A text may be sent as a header value. -/
def validValue (s : String) : Bool :=
  s.toList.all valueChar

/-- A character that a value read as plain text may hold: visible ASCII, a
    space or a tab. -/
def visibleChar (c : Char) : Bool :=
  c == '\t' || (0x20 ≤ c.toNat && c.toNat < 0x7F)

/-- A header value that reads as plain text. -/
def visible (s : String) : Bool :=
  s.toList.all visibleChar

/-- Two header names are the same name. -/
def sameName (a b : String) : Bool :=
  a.toList.map Char.toLower == b.toList.map Char.toLower

/-- Every value of the header `name`, in order. -/
def Headers.getAll (hs : Headers) (name : String) : List String :=
  (hs.filter fun h => sameName h.1 name).map (·.2)

/-- The first value of the header `name`. -/
def Headers.get? (hs : Headers) (name : String) : Option String :=
  (hs.getAll name).head?

theorem visibleChar_valueChar {c : Char} (h : visibleChar c = true) : valueChar c = true := by
  simp only [visibleChar, valueChar, Bool.or_eq_true, Bool.and_eq_true,
    decide_eq_true_eq, bne_iff_ne, ne_eq] at h ⊢
  rcases h with h | ⟨h₁, h₂⟩
  · exact Or.inl h
  · exact Or.inr ⟨h₁, by omega⟩

/-- Text that reads as plain text may be sent as a value. -/
theorem validValue_of_visible {s : String} (h : visible s = true) : validValue s = true := by
  simp only [visible, validValue, List.all_eq_true] at h ⊢
  exact fun c hc => visibleChar_valueChar (h c hc)

end Warden.Http
