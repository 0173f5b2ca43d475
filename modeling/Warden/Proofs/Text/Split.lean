import Mathlib.Data.String.Basic
/-!
# Splitting text into segments

Paths are cut into segments by `String.splitOn`, which walks the text by
byte positions. At a separator of one character the walk is the split of
the character list (`splitOn_char`). The proof follows the walk over a text
`l ++ m ++ r`, where `l` is what the closed segments took, `m` the segment
being read and `r` what is left; at each step the position is the byte
length of `l ++ m`, so the position lemmas of `String` read the next
character of `r`.

No part of a split holds the separator (`not_mem_of_mem_splitOn`), and parts
free of it, joined by it, split back into themselves
(`splitOn_intercalate_char`).
-/

namespace Warden.Text

-- ============================================================ the walk

/-- The walk of `splitOn` at a one-character separator, from inside the text
    `l ++ m ++ r`: the segments closed so far, then the split of the rest
    with `m` read into the current segment. -/
theorem splitOnAux_char (c : Char) :
    ∀ (r l m : List Char) (acc : List String),
      String.splitOnAux (String.ofList (l ++ m ++ r)) (String.ofList [c])
          ⟨String.utf8Len l⟩ ⟨String.utf8Len l + String.utf8Len m⟩ 0 acc =
        acc.reverse ++ (List.splitOnPPrepend (· == c) r m.reverse).map String.ofList
  | [], l, m, acc => by
    -- at the end: the current segment is the last
    unfold String.splitOnAux
    simp only [List.append_nil, String.atEnd_iff, String.rawEndPos_ofList, String.utf8Len_append,
      String.Pos.Raw.mk_le_mk, Nat.le_refl, if_true, List.reverse_cons,
      List.splitOnPPrepend_nil, List.reverse_reverse]
    rw [show String.Pos.Raw.extract (String.ofList (l ++ m)) ⟨String.utf8Len l⟩
        ⟨String.utf8Len l + String.utf8Len m⟩ = String.ofList m by
      simpa using String.extract_of_valid l m []]
    simp
  | d :: r, l, m, acc => by
    have hget : String.Pos.Raw.get (String.ofList (l ++ m ++ d :: r))
        ⟨String.utf8Len l + String.utf8Len m⟩ = d := by
      simpa using String.get_of_valid (l ++ m) (d :: r)
    have hnext : String.Pos.Raw.next (String.ofList (l ++ m ++ d :: r))
        ⟨String.utf8Len l + String.utf8Len m⟩ =
          ⟨String.utf8Len l + String.utf8Len m + d.utf8Size⟩ := by
      simpa using String.next_of_valid (l ++ m) d r
    have hsep : String.Pos.Raw.get (String.ofList [c]) 0 = c := String.get_of_valid [] [c]
    have hsnext : String.Pos.Raw.next (String.ofList [c]) 0 = ⟨c.utf8Size⟩ := by
      simpa using String.next_of_valid [] c []
    have hd₀ := Char.utf8Size_pos d
    unfold String.splitOnAux
    simp only [String.atEnd_iff, String.rawEndPos_ofList, String.utf8Len_append,
      String.utf8Len_cons, String.Pos.Raw.mk_le_mk, hget, hsep, hnext, hsnext,
      String.Pos.Raw.unoffsetBy_zero, String.utf8Len_nil, Nat.zero_add, Nat.le_refl, if_true]
    rw [if_neg (by omega)]
    by_cases hd : d = c
    · -- the separator closes the current segment; the next starts empty
      subst hd
      have hun : String.Pos.Raw.unoffsetBy ⟨String.utf8Len l + String.utf8Len m + d.utf8Size⟩
          ⟨d.utf8Size⟩ = ⟨String.utf8Len l + String.utf8Len m⟩ := by
        simp [String.Pos.Raw.unoffsetBy]
      have hex : String.Pos.Raw.extract (String.ofList (l ++ m ++ d :: r)) ⟨String.utf8Len l⟩
          ⟨String.utf8Len l + String.utf8Len m⟩ = String.ofList m :=
        String.extract_of_valid l m (d :: r)
      rw [if_pos (beq_self_eq_true d), hun, hex]
      have ih := splitOnAux_char d r (l ++ m ++ [d]) [] (String.ofList m :: acc)
      simpa [List.splitOnPPrepend_cons_pos, Nat.add_assoc] using ih
    · -- any other character joins the current segment
      rw [if_neg (by simpa using hd)]
      have ih := splitOnAux_char c r l (m ++ [d]) acc
      simpa [List.splitOnPPrepend_cons_neg, hd, Nat.add_assoc] using ih

/-- At a one-character separator, splitting a text is splitting its
    characters. -/
theorem splitOn_char (s : String) (c : Char) :
    s.splitOn (String.ofList [c]) = (s.toList.splitOn c).map String.ofList := by
  have h := splitOnAux_char c s.toList [] [] []
  simp only [List.nil_append, String.ofList_toList] at h
  rw [String.splitOn, if_neg (by simp), List.splitOn_eq_splitOnP]
  simpa using h

-- ============================================================ parts

/-- No part that splitting at a separator gives holds the separator. -/
theorem not_mem_of_mem_splitOn {sep : Char} :
    ∀ {xs : List Char}, ∀ l ∈ xs.splitOn sep, sep ∉ l
  | [] => by simp
  | x :: xs => by
    intro l hl
    rw [List.splitOn_cons_eq_if_modifyHead] at hl
    split at hl
    · rcases List.mem_cons.1 hl with rfl | hl
      · exact List.not_mem_nil
      · exact not_mem_of_mem_splitOn l hl
    · -- the character joins the first part, and it is no separator
      rename_i hx
      obtain ⟨h, t, ht⟩ := List.exists_cons_of_ne_nil (List.splitOn_ne_nil sep xs)
      rw [ht, List.modifyHead_cons] at hl
      rcases List.mem_cons.1 hl with rfl | hl
      · rw [List.mem_cons, not_or]
        exact ⟨fun he => hx (by rw [he, beq_self_eq_true]),
          not_mem_of_mem_splitOn h (by rw [ht]; exact List.mem_cons_self)⟩
      · exact not_mem_of_mem_splitOn l (by rw [ht]; exact List.mem_cons_of_mem h hl)

/-- No segment of a text split at a character holds the character. -/
theorem not_mem_toList_of_mem_splitOn {t s : String} {c : Char}
    (h : s ∈ t.splitOn (String.ofList [c])) : c ∉ s.toList := by
  rw [splitOn_char, List.mem_map] at h
  obtain ⟨l, hl, rfl⟩ := h
  rw [String.toList_ofList]
  exact not_mem_of_mem_splitOn l hl

/-- Texts free of a character, joined by it, split back into themselves. -/
theorem splitOn_intercalate_char {c : Char} {ss : List String}
    (hs : ∀ s ∈ ss, c ∉ s.toList) (hne : ss ≠ []) :
    ((String.ofList [c]).intercalate ss).splitOn (String.ofList [c]) = ss := by
  have hs' : ∀ l ∈ ss.map String.toList, c ∉ l := by
    simpa using hs
  have hne' : ss.map String.toList ≠ [] := by
    simpa using hne
  rw [splitOn_char, String.toList_intercalate, String.toList_ofList,
    List.splitOn_intercalate c hs' hne']
  simp

end Warden.Text
