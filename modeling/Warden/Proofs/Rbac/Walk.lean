import Warden.Rbac.Graph
/-!
# Depth-first walks over the role graph

The roles that some names reach (`Reachable`) are the known roles among the
names and, again and again, the known parents of reached roles. The order
in which permissions are collected is a depth-first pre-order, written here
as a walk with an explicit stack (`Walk`): a name on top of the stack that
no role has, or whose role is visited, is dropped; otherwise its role is
visited and its parents go on top of the stack, in the order it lists
them. The names visited, in order, are the walk's answer.

A walk answers one list for a stack (`Walk.det`), repeats no role
(`Walk.nodup`), and visits exactly the roles the stack reaches
(`Walk.mem_iff`).
-/

namespace Warden.Rbac.Graph

/-- The depth-first walk that starts with the stack `s` and the names
    `vis` visited, and ends with the names `out` visited. -/
inductive Walk (g : Graph) : List String → List String → List String → Prop where
  | done (vis : List String) : Walk g [] vis vis
  | unknown {n : String} {rest vis out : List String} :
      g.role? n = none → Walk g rest vis out → Walk g (n :: rest) vis out
  | seen {n : String} {rest vis out : List String} :
      n ∈ vis → Walk g rest vis out → Walk g (n :: rest) vis out
  | visit {n : String} {r : Role} {rest vis out : List String} :
      g.role? n = some r → n ∉ vis → Walk g (r.inherits ++ rest) (vis ++ [n]) out →
      Walk g (n :: rest) vis out

/-- The roles that the names `xs` reach through inheritance. -/
inductive Reachable (g : Graph) (xs : List String) : String → Prop where
  | root {n : String} {r : Role} : n ∈ xs → g.role? n = some r → Reachable g xs n
  | parent {n p : String} {r q : Role} :
      Reachable g xs n → g.role? n = some r → p ∈ r.inherits → g.role? p = some q →
      Reachable g xs p

/-- The permissions a role holds itself; a name with no role holds none. -/
def own (g : Graph) (n : String) : List Permission := ((g.role? n).map Role.permissions).getD []

theorem own_of_role? {g : Graph} {n : String} {r : Role} (h : g.role? n = some r) :
    g.own n = r.permissions := by
  simp [own, h]

-- ============================================================ reach

namespace Reachable

variable {g : Graph}

theorem known {xs : List String} {n : String} (h : Reachable g xs n) : ∃ r, g.role? n = some r := by
  cases h with
  | root _ hr => exact ⟨_, hr⟩
  | parent _ _ _ hq => exact ⟨_, hq⟩

/-- What some names reach, names with at least the same members reach. -/
theorem mono {xs ys : List String} (hs : ∀ x ∈ xs, x ∈ ys) {n : String} (h : Reachable g xs n) :
    Reachable g ys n := by
  induction h with
  | root hn hr => exact .root (hs _ hn) hr
  | parent _ hr hp hq ih => exact .parent ih hr hp hq

/-- What a role's parents and the rest of the stack reach, the role and the
    rest of the stack reach. -/
theorem pop {n : String} {r : Role} {rest : List String} (hr : g.role? n = some r) {m : String}
    (h : Reachable g (r.inherits ++ rest) m) : Reachable g (n :: rest) m := by
  induction h with
  | root hm hq =>
    rcases List.mem_append.1 hm with hm | hm
    · exact .parent (.root List.mem_cons_self hr) hr hm hq
    · exact .root (List.mem_cons_of_mem n hm) hq
  | parent _ hr' hp hq ih => exact .parent ih hr' hp hq

theorem append_iff {xs ys : List String} {n : String} :
    Reachable g (xs ++ ys) n ↔ Reachable g xs n ∨ Reachable g ys n := by
  constructor
  · intro h
    induction h with
    | root hn hr =>
      rcases List.mem_append.1 hn with hn | hn
      · exact .inl (.root hn hr)
      · exact .inr (.root hn hr)
    | parent _ hr hp hq ih =>
      rcases ih with ih | ih
      · exact .inl (.parent ih hr hp hq)
      · exact .inr (.parent ih hr hp hq)
  · rintro (h | h)
    · exact h.mono fun x hx => List.mem_append_left ys hx
    · exact h.mono fun x hx => List.mem_append_right xs hx

end Reachable

-- ============================================================ walks

namespace Walk

variable {g : Graph}

/-- A walk on one stack, then one on another, is a walk on the two stacked. -/
theorem append {a b vis mid out : List String} (h₁ : Walk g a vis mid) (h₂ : Walk g b mid out) :
    Walk g (a ++ b) vis out := by
  induction h₁ with
  | done => exact h₂
  | unknown hn _ ih => exact .unknown hn (ih h₂)
  | seen hm _ ih => exact .seen hm (ih h₂)
  | visit hr hm _ ih =>
    rw [List.cons_append]
    exact .visit hr hm (List.append_assoc _ _ _ ▸ ih h₂)

/-- A walk answers one list. -/
theorem det {s vis o₁ o₂ : List String} (h₁ : Walk g s vis o₁) (h₂ : Walk g s vis o₂) :
    o₁ = o₂ := by
  induction h₁ generalizing o₂ with
  | done => cases h₂; rfl
  | unknown hn _ ih =>
    cases h₂ with
    | unknown _ h₂ => exact ih h₂
    | seen _ h₂ => exact ih h₂
    | visit hr => rw [hn] at hr; cases hr
  | seen hm _ ih =>
    cases h₂ with
    | unknown _ h₂ => exact ih h₂
    | seen _ h₂ => exact ih h₂
    | visit _ hm' => exact absurd hm hm'
  | visit hr hm _ ih =>
    cases h₂ with
    | unknown hn => rw [hn] at hr; cases hr
    | seen hm' => exact absurd hm' hm
    | visit hr' _ h₂ =>
      rw [hr] at hr'
      cases hr'
      exact ih h₂

/-- A walk only adds to what was visited. -/
theorem grows {s vis out : List String} (h : Walk g s vis out) : ∃ new, out = vis ++ new := by
  induction h with
  | done vis => exact ⟨[], (List.append_nil vis).symm⟩
  | unknown _ _ ih => exact ih
  | seen _ _ ih => exact ih
  | @visit n r rest vis out _ _ _ ih =>
    obtain ⟨new, rfl⟩ := ih
    exact ⟨n :: new, by simp⟩

theorem subset {s vis out : List String} (h : Walk g s vis out) {m : String} (hm : m ∈ vis) :
    m ∈ out := by
  obtain ⟨new, rfl⟩ := h.grows
  exact List.mem_append_left new hm

/-- A walk visits no role twice. -/
theorem nodup {s vis out : List String} (h : Walk g s vis out) (hv : vis.Nodup) : out.Nodup := by
  induction h with
  | done => exact hv
  | unknown _ _ ih => exact ih hv
  | seen _ _ ih => exact ih hv
  | visit _ hm _ ih =>
    refine ih (List.nodup_append.2 ⟨hv, List.nodup_cons.2 ⟨List.not_mem_nil, List.nodup_nil⟩,
      fun a ha b hb => ?_⟩)
    rw [List.mem_singleton] at hb
    exact fun hab => hm (hb ▸ hab ▸ ha)

/-- Every role a walk visits was visited already or is reached from the
    stack. -/
theorem sound {s vis out : List String} (h : Walk g s vis out) {m : String} (hm : m ∈ out) :
    m ∈ vis ∨ Reachable g s m := by
  induction h with
  | done => exact .inl hm
  | unknown _ _ ih =>
    exact (ih hm).imp_right (Reachable.mono fun x hx => List.mem_cons_of_mem _ hx)
  | seen _ _ ih =>
    exact (ih hm).imp_right (Reachable.mono fun x hx => List.mem_cons_of_mem _ hx)
  | visit hr _ _ ih =>
    rcases ih hm with hm | hm
    · rcases List.mem_append.1 hm with hm | hm
      · exact .inl hm
      · rw [List.mem_singleton] at hm
        subst hm
        exact .inr (.root List.mem_cons_self hr)
    · exact .inr (Reachable.pop hr hm)

/-- A walk visits every known name of its stack, and with every role it
    visits, the known parents of that role. -/
theorem complete {s vis out : List String} (h : Walk g s vis out) :
    (∀ n ∈ s, ∀ r, g.role? n = some r → n ∈ out) ∧
      ∀ n ∈ out, n ∉ vis → ∀ r, g.role? n = some r → ∀ p ∈ r.inherits, ∀ q, g.role? p = some q →
        p ∈ out := by
  induction h with
  | done => exact ⟨fun _ hn => absurd hn List.not_mem_nil, fun _ hn hv => absurd hn hv⟩
  | @unknown n rest vis out hn _ ih =>
    refine ⟨fun m hm r hr => ?_, ih.2⟩
    rcases List.mem_cons.1 hm with rfl | hm
    · rw [hn] at hr
      cases hr
    · exact ih.1 m hm r hr
  | @seen n rest vis out hv hw ih =>
    refine ⟨fun m hm r hr => ?_, ih.2⟩
    rcases List.mem_cons.1 hm with rfl | hm
    · exact hw.subset hv
    · exact ih.1 m hm r hr
  | @visit n r rest vis out hr hnv hw ih =>
    have hn : n ∈ out := hw.subset (List.mem_append_right vis List.mem_cons_self)
    refine ⟨fun m hm r' hr' => ?_, fun m hm hmv r' hr' p hp q hq => ?_⟩
    · rcases List.mem_cons.1 hm with rfl | hm
      · exact hn
      · exact ih.1 m (List.mem_append_right _ hm) r' hr'
    · -- the role just visited put its parents on the stack; any other new
      -- role is new to the rest of the walk too
      by_cases hmn : m = n
      · subst hmn
        rw [hr] at hr'
        cases hr'
        exact ih.1 p (List.mem_append_left _ hp) q hq
      · refine ih.2 m hm ?_ r' hr' p hp q hq
        rw [List.mem_append, List.mem_singleton, not_or]
        exact ⟨hmv, hmn⟩

/-- A walk from nothing visited visits exactly the roles its stack reaches. -/
theorem mem_iff {xs out : List String} (h : Walk g xs [] out) {m : String} :
    m ∈ out ↔ Reachable g xs m := by
  constructor
  · intro hm
    rcases h.sound hm with hm | hm
    · cases hm
    · exact hm
  · intro hm
    have hc := h.complete
    induction hm with
    | root hn hr => exact hc.1 _ hn _ hr
    | parent _ hr hp hq ih => exact hc.2 _ ih List.not_mem_nil _ hr _ hp _ hq

end Walk

end Warden.Rbac.Graph
