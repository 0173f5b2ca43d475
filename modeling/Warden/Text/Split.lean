/-!
# Splitting at a character

`splitOnce s c` cuts a text at the first `c` in it: the part before has no
`c`, and the two parts joined by `c` give the text back (`splitOnceChars_spec`).
-/

namespace Warden.Text

/-- The characters before the first `c` and those after it, if `c` occurs. -/
def splitOnceChars (c : Char) : List Char → Option (List Char × List Char)
  | [] => none
  | d :: ds =>
    if d = c then some ([], ds) else (splitOnceChars c ds).map fun p => (d :: p.1, p.2)

/-- The text before the first `c` and the text after it, if `c` occurs. -/
def splitOnce (s : String) (c : Char) : Option (String × String) :=
  (splitOnceChars c s.toList).map fun p => (String.ofList p.1, String.ofList p.2)

/-- A cut at the first `c` leaves no `c` before it and loses nothing. -/
theorem splitOnceChars_spec (c : Char) :
    ∀ {cs a b : List Char}, splitOnceChars c cs = some (a, b) → cs = a ++ c :: b ∧ c ∉ a
  | [], _, _, h => by simp [splitOnceChars] at h
  | d :: ds, a, b, h => by
    unfold splitOnceChars at h
    split at h
    · cases h; simp_all
    · obtain ⟨⟨a', b'⟩, h', he⟩ := Option.map_eq_some_iff.1 h
      cases he
      obtain ⟨h₁, h₂⟩ := splitOnceChars_spec c h'
      subst h₁
      simp only [List.cons_append, List.mem_cons, not_or, true_and]
      exact ⟨fun e => by simp_all, h₂⟩

/-- A text with no `c` has no cut at `c`. -/
theorem splitOnceChars_eq_none (c : Char) :
    ∀ {cs : List Char}, c ∉ cs → splitOnceChars c cs = none
  | [], _ => rfl
  | d :: ds, h => by
    simp only [List.mem_cons, not_or] at h
    simp [splitOnceChars, Ne.symm h.1, splitOnceChars_eq_none c h.2]

end Warden.Text
