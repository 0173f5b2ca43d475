import Warden.Text.Integer
/-!
# Decimal integers read back

An integer is written in decimal as its digits, after a minus sign when it
is negative. Reading that text back gives the integer (`signed?_toString`),
and a 32-bit integer reads back as a 32-bit decimal (`int32?_toString`): the
digits of a natural number are ASCII digits, none of them a sign, and they
spell the number (`digitsValue?_toDigits`).

The text holds nothing but a sign and digits, so no colon
(`colon_not_mem_toString`).
-/

namespace Warden.Text.Integer

/-- Reading digits after a value `n` carries on from `n`. -/
theorem foldl_digits {cs : List Char} (h : ∀ c ∈ cs, c.isDigit = true) (n : Nat) :
    cs.foldl (fun acc c => acc.bind fun n =>
      if c.isDigit then some (10 * n + (c.toNat - 48)) else none) (some n) =
      some (Nat.ofDigitChars 10 cs n) := by
  induction cs generalizing n with
  | nil => rfl
  | cons c cs ih =>
    have hc : c.isDigit = true := h c List.mem_cons_self
    rw [List.foldl_cons, Option.bind_some, if_pos hc,
      ih (fun d hd => h d (List.mem_cons_of_mem _ hd)), Nat.ofDigitChars_cons]
    rfl

theorem isDigit_of_mem_toDigits {n : Nat} {c : Char} (h : c ∈ Nat.toDigits 10 n) :
    c.isDigit = true :=
  Nat.isDigit_of_mem_toDigits (by decide) (by decide) h

/-- The digits of a natural number spell it. -/
theorem digitsValue?_toDigits (n : Nat) : digitsValue? (Nat.toDigits 10 n) = some n := by
  have hne : (Nat.toDigits 10 n).isEmpty = false := by
    cases h : Nat.toDigits 10 n with
    | nil => exact absurd h Nat.toDigits_ne_nil
    | cons c cs => rfl
  rw [digitsValue?, hne, if_neg (by decide), foldl_digits (fun _ => isDigit_of_mem_toDigits),
    Nat.ofDigitChars_ten_toDigits]

theorem toList_toString_ofNat (n : Nat) :
    (toString (Int.ofNat n)).toList = Nat.toDigits 10 n :=
  Nat.toList_repr

theorem toList_toString_negSucc (n : Nat) :
    (toString (Int.negSucc n)).toList = '-' :: Nat.toDigits 10 (n + 1) := by
  show ("-" ++ Nat.repr (n + 1)).toList = _
  rw [String.toList_append, Nat.toList_repr]
  rfl

/-- Reading the decimal text of an integer gives the integer. -/
theorem signed?_toString (u : Int) : signed? (toString u) = some u := by
  cases u with
  | ofNat n =>
    -- the text is the digits alone, and its first digit is no sign
    obtain ⟨c, cs, hcs⟩ := List.exists_cons_of_ne_nil (Nat.toDigits_ne_nil (b := 10) (n := n))
    have hc : c.isDigit = true := isDigit_of_mem_toDigits (hcs ▸ List.mem_cons_self)
    have hplus : c ≠ '+' := fun h => by rw [h] at hc; cases hc
    have hminus : c ≠ '-' := fun h => by rw [h] at hc; cases hc
    unfold signed?
    rw [toList_toString_ofNat, hcs]
    split
    · rename_i rest h
      exact absurd (List.cons.inj h).1 hplus
    · rename_i rest h
      exact absurd (List.cons.inj h).1 hminus
    · rw [← hcs, digitsValue?_toDigits]
      rfl
  | negSucc n =>
    unfold signed?
    rw [toList_toString_negSucc]
    simp only [digitsValue?_toDigits, Option.map_some]
    rfl

/-- A 32-bit integer written in decimal reads back as a 32-bit decimal. -/
theorem int32?_toString {u : Int} (h₁ : -2147483648 ≤ u) (h₂ : u ≤ 2147483647) :
    int32? (toString u) = some u := by
  rw [int32?, signed?_toString, Option.bind_some, if_pos ⟨h₁, h₂⟩]

/-- The decimal text of an integer has no colon. -/
theorem colon_not_mem_toString (u : Int) : ':' ∉ (toString u).toList := by
  -- a colon is neither a digit nor a minus sign
  have hdig : ∀ n, ':' ∉ Nat.toDigits 10 n := fun n h => by
    have := isDigit_of_mem_toDigits h
    cases this
  cases u with
  | ofNat n =>
    rw [toList_toString_ofNat]
    exact hdig n
  | negSucc n =>
    rw [toList_toString_negSucc, List.mem_cons, not_or]
    exact ⟨by decide, hdig (n + 1)⟩

theorem toString_ne_empty (u : Int) : toString u ≠ "" := by
  intro h
  have hl := congrArg String.toList h
  cases u with
  | ofNat n =>
    rw [toList_toString_ofNat] at hl
    exact Nat.toDigits_ne_nil hl
  | negSucc n =>
    rw [toList_toString_negSucc] at hl
    cases hl

end Warden.Text.Integer
