/-!
# Permissions

A permission grants some methods on the paths that a template describes. A
template is a path whose segments (the parts between `/`) may be `*`, which
stands for any one segment; the template `*` alone stands for every path.
Methods are compared exactly, and the method `*` stands for every method.

`Permission.grants` answers one request. Its path test first compares the
template with the path as a whole; `pathMatches_iff` shows that this
shortcut never changes the answer of the segment rule `SegmentsMatch`.
-/

namespace Warden.Rbac

/-- The wildcard, as a template, a segment or a method. -/
def wildcard : String := "*"

/-- Methods granted on the paths a template describes. -/
structure Permission where
  path : String
  methods : List String
  deriving DecidableEq, Repr

-- ============================================================ the segment rule

/-- Segment by segment, each template segment is `*` or equal to the path's. -/
def segmentsMatch : List String → List String → Bool
  | [], [] => true
  | t :: ts, p :: ps => (t == wildcard || t == p) && segmentsMatch ts ps
  | _, _ => false

/-- The segment rule as a relation: equal length, and each template
    segment is the wildcard or the path's segment at the same place. -/
def SegmentsMatch (ts ps : List String) : Prop :=
  ts.length = ps.length ∧ ∀ i (h₁ : i < ts.length) (h₂ : i < ps.length),
    ts.get ⟨i, h₁⟩ = wildcard ∨ ts.get ⟨i, h₁⟩ = ps.get ⟨i, h₂⟩

/-- A path template matches a path: it is the path, or `*`, or it matches
    segment by segment. -/
def pathMatches (template path : String) : Bool :=
  template == path || template == wildcard ||
    segmentsMatch (template.splitOn "/") (path.splitOn "/")

namespace Permission

/-- A permission allows a request when its template matches the path and it
    lists the method or `*`. -/
def grants (p : Permission) (path method : String) : Bool :=
  pathMatches p.path path && p.methods.any fun m => m == wildcard || m == method

end Permission

/-- Some permission of a list allows the request. -/
def grantsAny (perms : List Permission) (path method : String) : Bool :=
  perms.any fun p => p.grants path method

-- ============================================================ the rule, stated

theorem segmentsMatch_self : ∀ ts : List String, segmentsMatch ts ts = true
  | [] => rfl
  | t :: ts => by simp [segmentsMatch, segmentsMatch_self ts]

theorem segmentsMatch_iff : ∀ ts ps : List String,
    segmentsMatch ts ps = true ↔ SegmentsMatch ts ps
  | [], [] => by simp [segmentsMatch, SegmentsMatch]
  | [], _ :: _ => by simp [segmentsMatch, SegmentsMatch]
  | _ :: _, [] => by simp [segmentsMatch, SegmentsMatch]
  | t :: ts, p :: ps => by
    rw [segmentsMatch, Bool.and_eq_true, segmentsMatch_iff ts ps]
    simp only [SegmentsMatch, List.length_cons, Nat.add_right_cancel_iff, Bool.or_eq_true,
      beq_iff_eq]
    constructor
    · rintro ⟨hh, hl, ht⟩
      refine ⟨hl, fun i h₁ h₂ => ?_⟩
      cases i with
      | zero => simpa using hh
      | succ i => simpa using ht i (by omega) (by omega)
    · rintro ⟨hl, ht⟩
      refine ⟨by simpa using ht 0 (by omega) (by omega), hl, fun i h₁ h₂ => ?_⟩
      simpa using ht (i + 1) (by omega) (by omega)

/-- The whole-path shortcut agrees with the segment rule: a template matches
    exactly when it is `*` or matches segment by segment. -/
theorem pathMatches_iff (template path : String) :
    pathMatches template path = true ↔
      template = wildcard ∨ SegmentsMatch (template.splitOn "/") (path.splitOn "/") := by
  rw [← segmentsMatch_iff]
  simp only [pathMatches, Bool.or_eq_true, beq_iff_eq]
  constructor
  · rintro ((h | h) | h)
    · subst h; exact Or.inr (segmentsMatch_self _)
    · exact Or.inl h
    · exact Or.inr h
  · rintro (h | h)
    · exact Or.inl (Or.inr h)
    · exact Or.inr h

end Warden.Rbac
