import Warden.Rbac.Permission
import Warden.Proofs.Text.Split
/-!
# Matching requests against permissions

`grants_iff_segment_rule` states the whole rule a permission applies to a
request:

* a permission grants a request exactly when it lists the method or `*`,
  and its template is `*` or matches the path segment by segment;
* the whole-path shortcut never decides otherwise, since every template
  matches itself segment by segment;
* making a template segment `*` never loses a match, on the segments and on
  the permission whose template is rejoined from them with `/`.

A template rejoined from its segments splits back into them, one of them
made `*` or not, since no segment holds a `/` (`splitOn_set_wildcard`).
-/

namespace Warden.Rbac

-- ============================================================ widening

/-- Making one template segment the wildcard keeps a segment match. -/
theorem segmentsMatch_set_wildcard : ∀ (ts ps : List String) (i : Nat),
    segmentsMatch ts ps = true → segmentsMatch (ts.set i wildcard) ps = true
  | [], [], _, _ => rfl
  | [], _ :: _, _, h => by simp [segmentsMatch] at h
  | _ :: _, [], _, h => by simp [segmentsMatch] at h
  | t :: ts, p :: ps, 0, h => by
    rw [segmentsMatch, Bool.and_eq_true] at h
    simp only [List.set_cons_zero, segmentsMatch, Bool.and_eq_true, Bool.or_eq_true, beq_self_eq_true,
      true_or, true_and]
    exact h.2
  | t :: ts, p :: ps, i + 1, h => by
    rw [segmentsMatch, Bool.and_eq_true] at h
    rw [List.set_cons_succ, segmentsMatch, Bool.and_eq_true]
    exact ⟨h.1, segmentsMatch_set_wildcard ts ps i h.2⟩

/-- A permission's method test: the method or the wildcard is listed. -/
theorem any_method_iff (p : Permission) (method : String) :
    (p.methods.any fun m => m == wildcard || m == method) = true ↔
      method ∈ p.methods ∨ wildcard ∈ p.methods := by
  rw [List.any_eq_true]
  simp only [Bool.or_eq_true, beq_iff_eq]
  constructor
  · rintro ⟨m, hm, hw | he⟩
    · subst hw
      exact Or.inr hm
    · subst he
      exact Or.inl hm
  · rintro (hm | hm)
    · exact ⟨method, hm, Or.inr rfl⟩
    · exact ⟨wildcard, hm, Or.inl rfl⟩

-- ============================================================ rejoined templates

/-- The separator of segments. -/
theorem slash_eq_ofList : ("/" : String) = String.ofList ['/'] := by
  decide

/-- A template with one segment made `*`, rejoined with `/`, splits into
    those segments. -/
theorem splitOn_set_wildcard (template : String) (i : Nat) :
    ("/".intercalate ((template.splitOn "/").set i wildcard)).splitOn "/" =
      (template.splitOn "/").set i wildcard := by
  rw [slash_eq_ofList]
  apply Text.splitOn_intercalate_char
  · -- the segments hold no `/`, and neither does `*`
    intro s hs
    rcases List.mem_or_eq_of_mem_set hs with hs | rfl
    · exact Text.not_mem_toList_of_mem_splitOn hs
    · decide
  · rw [ne_eq, List.set_eq_nil_iff, Text.splitOn_char, List.map_eq_nil_iff]
    exact List.splitOn_ne_nil _ _

/-- The template `*` is one segment, and making it `*` leaves it `*`. -/
theorem wildcard_rejoined (i : Nat) :
    "/".intercalate ((wildcard.splitOn "/").set i wildcard) = wildcard := by
  have hsplit : wildcard.splitOn "/" = [wildcard] := by
    rw [slash_eq_ofList, Text.splitOn_char]
    decide
  rw [hsplit]
  cases i <;> rfl

/-- A permission whose template has one segment made `*` and is rejoined
    with `/` grants whatever the permission granted. -/
theorem grants_set_wildcard {p : Permission} {path method : String} (i : Nat)
    (h : p.grants path method = true) :
    { p with path := "/".intercalate ((p.path.splitOn "/").set i wildcard) }.grants path method =
      true := by
  rw [Permission.grants, Bool.and_eq_true, pathMatches_iff] at h ⊢
  refine ⟨?_, h.2⟩
  rcases h.1 with hw | hs
  · -- the template `*` stays `*`
    rw [hw]
    exact .inl (wildcard_rejoined i)
  · -- a segment match survives the widening, and the rejoined template
    -- splits into the widened segments
    rw [splitOn_set_wildcard]
    exact .inr ((segmentsMatch_iff _ _).mp
      (segmentsMatch_set_wildcard _ _ i ((segmentsMatch_iff _ _).mpr hs)))

-- ============================================================ the rule

/-- A permission grants a request exactly by the segment rule; the
    whole-path shortcut agrees with it, because a template matches itself;
    and a template with a segment made `*` matches whatever it matched, both
    as segments and as the permission with the template rejoined by `/`. -/
theorem grants_iff_segment_rule :
    (∀ (p : Permission) (path method : String), p.grants path method = true ↔
      (method ∈ p.methods ∨ wildcard ∈ p.methods) ∧
        (p.path = wildcard ∨ SegmentsMatch (p.path.splitOn "/") (path.splitOn "/"))) ∧
    (∀ template : String, SegmentsMatch (template.splitOn "/") (template.splitOn "/")) ∧
    (∀ (ts ps : List String) (i : Nat),
      SegmentsMatch ts ps → SegmentsMatch (ts.set i wildcard) ps) ∧
    (∀ (p : Permission) (path method : String) (i : Nat), p.grants path method = true →
      { p with path := "/".intercalate ((p.path.splitOn "/").set i wildcard) }.grants path
        method = true) := by
  refine ⟨fun p path method => ?_, fun template => ?_, fun ts ps i h => ?_,
    fun p path method i h => grants_set_wildcard i h⟩
  · rw [Permission.grants, Bool.and_eq_true, pathMatches_iff, any_method_iff]
    exact And.comm
  · exact (segmentsMatch_iff _ _).mp (segmentsMatch_self _)
  · exact (segmentsMatch_iff _ _).mp
      (segmentsMatch_set_wildcard ts ps i ((segmentsMatch_iff ts ps).mpr h))

/-- The template `/tournaments/42` matches its own path, and so does
    `/tournaments/*`. -/
theorem wildcard_segment_keeps_match :
    SegmentsMatch ["", "tournaments", "42"] ["", "tournaments", "42"] ∧
      SegmentsMatch (["", "tournaments", "42"].set 2 wildcard) ["", "tournaments", "42"] :=
  have h : SegmentsMatch ["", "tournaments", "42"] ["", "tournaments", "42"] :=
    (segmentsMatch_iff _ _).mp (by decide)
  ⟨h, grants_iff_segment_rule.2.2.1 _ _ 2 h⟩

end Warden.Rbac
