import Warden.Proofs.Rbac.Walk
import Warden.Service.Profile
/-!
# Resolving roles to permissions

`Graph.permissions` collects recursively, with a shared list of visited roles
and fuel of one more than the number of roles. It is the depth-first walk
of `Walk` followed by each visited role's own permissions
(`permissions_walk`): collecting from a name is walking from it
(`collect_walk`), and collecting from the names of a list in turn is walking
the list as a stack (`foldl_collect_walk`). The fuel never runs out because
every deeper call visits a role not visited before, and fewer roles remain
unvisited each time (`unvisited_visit`).

Hence a role list grants a request exactly when some role it reaches has a
permission that grants it (`can_iff`), which depends only on which names
the list holds.
-/

namespace Warden.Rbac.Graph

variable {g : Graph}

-- ============================================================ the measure

/-- How many roles are not yet visited. -/
def unvisited (g : Graph) (vis : List String) : Nat :=
  g.roles.keys.countP fun k => !vis.contains k

theorem mem_keys_of_role? {n : String} {r : Role} (h : g.role? n = some r) :
    n ∈ g.roles.keys := by
  rw [role?, Std.TreeMap.get?_eq_getElem?] at h
  rw [Std.TreeMap.mem_keys, Std.TreeMap.mem_iff_isSome_getElem?, h]
  rfl

theorem unvisited_le_of_subset {vis vis' : List String} (h : ∀ x ∈ vis, x ∈ vis') :
    g.unvisited vis' ≤ g.unvisited vis :=
  List.countP_mono_left fun k _ hk => by
    have hk' : k ∉ vis' := by simpa using hk
    simpa using fun hv => hk' (h k hv)

/-- Visiting a role leaves one fewer unvisited. -/
theorem unvisited_visit {n : String} {r : Role} (hr : g.role? n = some r) {vis : List String}
    (hn : n ∉ vis) : g.unvisited (vis ++ [n]) < g.unvisited vis := by
  have hsplit : g.unvisited (vis ++ [n]) =
      ((g.roles.keys.filter fun k => !vis.contains k).filter fun k => !decide (k = n)).length := by
    rw [unvisited, List.countP_eq_length_filter, List.filter_filter]
    congr 2
    funext k
    simp [Bool.and_comm]
  rw [hsplit, unvisited, List.countP_eq_length_filter]
  refine List.length_filter_lt_length_iff_exists.2 ⟨n, ?_, by simp⟩
  rw [List.mem_filter]
  exact ⟨mem_keys_of_role? hr, by simpa using hn⟩

theorem unvisited_le_size (g : Graph) (vis : List String) : g.unvisited vis ≤ g.roles.size := by
  have h : g.unvisited vis ≤ g.roles.keys.length := List.countP_le_length
  rwa [Std.TreeMap.length_keys] at h

/-- The fuel the library passes, one more than the number of roles, is
    beyond the roles left unvisited, whatever has been visited. -/
theorem unvisited_lt_size_succ (g : Graph) (vis : List String) :
    g.unvisited vis < g.roles.size + 1 :=
  Nat.lt_succ_of_le (unvisited_le_size g vis)

-- ============================================================ the bridge

/-- Collecting from each name of a list in turn walks the list as a stack,
    when collecting from one name walks from it. -/
theorem foldl_collect_walk {fuel : Nat}
    (hc : ∀ n vis out, g.unvisited vis < fuel →
      ∃ new, Walk g [n] vis (vis ++ new) ∧
        g.collect fuel n (vis, out) = (vis ++ new, out ++ new.flatMap g.own)) :
    ∀ ns vis out, g.unvisited vis < fuel →
      ∃ new, Walk g ns vis (vis ++ new) ∧
        ns.foldl (fun acc p => g.collect fuel p acc) (vis, out) =
          (vis ++ new, out ++ new.flatMap g.own) := by
  intro ns
  induction ns with
  | nil =>
    intro vis out _
    exact ⟨[], by simpa using (Walk.done vis : Walk g [] vis vis), by simp⟩
  | cons p ps ih =>
    intro vis out hb
    obtain ⟨new₁, hw₁, he₁⟩ := hc p vis out hb
    -- what the first name visited stays visited, so the bound still holds
    have hb₁ : g.unvisited (vis ++ new₁) < fuel :=
      Nat.lt_of_le_of_lt (unvisited_le_of_subset fun x hx => List.mem_append_left _ hx) hb
    obtain ⟨new₂, hw₂, he₂⟩ := ih (vis ++ new₁) (out ++ new₁.flatMap g.own) hb₁
    refine ⟨new₁ ++ new₂, ?_, ?_⟩
    · simpa using hw₁.append hw₂
    · rw [List.foldl_cons, he₁, he₂]
      simp

/-- Collecting from a name, with fuel beyond the roles left unvisited, walks
    from it and adds the own permissions of each role it visits. -/
theorem collect_walk (fuel : Nat) :
    ∀ n vis out, g.unvisited vis < fuel →
      ∃ new, Walk g [n] vis (vis ++ new) ∧
        g.collect fuel n (vis, out) = (vis ++ new, out ++ new.flatMap g.own) := by
  induction fuel with
  | zero => exact fun _ _ _ hb => absurd hb (Nat.not_lt_zero _)
  | succ fuel ih =>
    intro n vis out hb
    cases hr : g.roles.get? n with
    | none =>
      refine ⟨[], by simpa using Walk.unknown hr (.done vis), ?_⟩
      simp only [collect, hr, List.append_nil, List.flatMap_nil]
    | some r =>
      cases hv : vis.contains n with
      | true =>
        refine ⟨[], by simpa using Walk.seen (by simpa using hv) (.done vis), ?_⟩
        simp only [collect, hr, hv, if_true, List.append_nil, List.flatMap_nil]
      | false =>
        have hn : n ∉ vis := by simpa using hv
        -- the role is visited now, and its parents are collected with one
        -- less fuel and one fewer role unvisited
        have hb' : g.unvisited (vis ++ [n]) < fuel := by
          have := unvisited_visit hr hn
          omega
        obtain ⟨new, hw, he⟩ :=
          foldl_collect_walk ih r.inherits (vis ++ [n]) (out ++ r.permissions) hb'
        refine ⟨n :: new, ?_, ?_⟩
        · have hw' : Walk g [n] vis (vis ++ [n] ++ new) :=
            .visit hr hn (by rw [List.append_nil]; exact hw)
          simpa using hw'
        · simp only [collect, hr, hv, Bool.false_eq_true, if_false, he, List.flatMap_cons,
            own_of_role? hr, List.append_assoc, List.singleton_append]

/-- The permissions of some roles are the own permissions of the roles that
    the depth-first walk from them visits, in the order it visits them. -/
theorem permissions_walk (g : Graph) (xs : List String) :
    ∃ order, Walk g xs [] order ∧ g.permissions xs = order.flatMap g.own := by
  obtain ⟨new, hw, he⟩ :=
    foldl_collect_walk (collect_walk (g.roles.size + 1)) xs [] [] (unvisited_lt_size_succ g [])
  refine ⟨new, by simpa using hw, ?_⟩
  rw [permissions, he]
  simp

-- ============================================================ the answer

/-- Some roles grant a request exactly when a role they reach has a
    permission that grants it. -/
theorem can_iff (g : Graph) (xs : List String) (path method : String) :
    g.can xs path method = true ↔
      ∃ n r, Reachable g xs n ∧ g.role? n = some r ∧
        ∃ p ∈ r.permissions, p.grants path method = true := by
  obtain ⟨order, hw, hp⟩ := permissions_walk g xs
  simp only [can, grantsAny, hp, List.any_eq_true, List.mem_flatMap]
  constructor
  · rintro ⟨p, ⟨n, hn, hpn⟩, hg⟩
    have hreach := hw.mem_iff.1 hn
    obtain ⟨r, hr⟩ := hreach.known
    exact ⟨n, r, hreach, hr, p, own_of_role? hr ▸ hpn, hg⟩
  · rintro ⟨n, r, hn, hr, p, hp, hg⟩
    exact ⟨p, ⟨n, hw.mem_iff.2 hn, (own_of_role? hr).symm ▸ hp⟩, hg⟩

/-- Names that reach every role some others reach grant all they grant. -/
theorem can_of_reachable {xs ys : List String} (h : ∀ n, Reachable g xs n → Reachable g ys n)
    {path method : String} (hc : g.can xs path method = true) : g.can ys path method = true := by
  obtain ⟨n, r, hn, hr, hp⟩ := (can_iff g xs path method).1 hc
  exact (can_iff g ys path method).2 ⟨n, r, h n hn, hr, hp⟩

/-- Names with the same members grant the same requests. -/
theorem can_congr (g : Graph) {xs ys : List String} (h : ∀ n, n ∈ xs ↔ n ∈ ys)
    (path method : String) : g.can xs path method = g.can ys path method :=
  Bool.eq_iff_iff.2
    ⟨can_of_reachable fun _ hn => hn.mono fun x hx => (h x).1 hx,
     can_of_reachable fun _ hn => hn.mono fun x hx => (h x).2 hx⟩

/-- Two lists of names together grant what either grants. -/
theorem can_append (g : Graph) (xs ys : List String) (path method : String) :
    g.can (xs ++ ys) path method = (g.can xs path method || g.can ys path method) := by
  apply Bool.eq_iff_iff.2
  rw [Bool.or_eq_true]
  constructor
  · intro hc
    -- the role that grants is reached from one of the two lists
    obtain ⟨n, r, hn, hr, hp⟩ := (can_iff g _ path method).1 hc
    rcases Reachable.append_iff.1 hn with hn | hn
    · exact .inl ((can_iff g xs path method).2 ⟨n, r, hn, hr, hp⟩)
    · exact .inr ((can_iff g ys path method).2 ⟨n, r, hn, hr, hp⟩)
  · rintro (hc | hc)
    · exact can_of_reachable (fun _ hn => Reachable.append_iff.2 (.inl hn)) hc
    · exact can_of_reachable (fun _ hn => Reachable.append_iff.2 (.inr hn)) hc

/-- A user's permissions are those of the roles stored with the user. -/
theorem permissionsOf_eq (g : Graph) (s : Store) (userId : Int) :
    Service.permissionsOf g s userId = (Service.rolesOf s userId).map g.permissions := by
  unfold Service.permissionsOf
  cases Service.rolesOf s userId <;> rfl

-- ============================================================ resolution as a whole

/-- Resolving role names is a depth-first walk: the permissions are the own
    permissions of the roles the names reach, each role once, in pre-order;
    the names grant a request exactly when a reached role has a permission
    that grants it, whatever their order, repetitions or split; and a user's
    permissions are those of the roles stored with the user. -/
theorem roles_resolve_depth_first (g : Graph) :
    (∀ xs, ∃ order, Walk g xs [] order ∧ order.Nodup ∧ (∀ n, n ∈ order ↔ Reachable g xs n) ∧
        g.permissions xs = order.flatMap g.own) ∧
    (∀ xs path method, g.can xs path method = true ↔
        ∃ n r, Reachable g xs n ∧ g.role? n = some r ∧
          ∃ p ∈ r.permissions, p.grants path method = true) ∧
    (∀ xs ys path method,
        g.can (xs ++ ys) path method = (g.can xs path method || g.can ys path method)) ∧
    (∀ xs ys path method, (∀ n, n ∈ xs ↔ n ∈ ys) →
        g.can xs path method = g.can ys path method) ∧
    (∀ (s : Store) (userId : Int),
        Service.permissionsOf g s userId = (Service.rolesOf s userId).map g.permissions) := by
  refine ⟨fun xs => ?_, can_iff g, can_append g, fun _ _ path method h => can_congr g h path method,
    permissionsOf_eq g⟩
  obtain ⟨order, hw, hp⟩ := permissions_walk g xs
  exact ⟨order, hw, hw.nodup List.nodup_nil, fun _ => hw.mem_iff, hp⟩

/-- Listing an editor role that inherits a viewer role in another order,
    with a repeat, grants the same. -/
theorem reordered_roles_grant_alike :
    (∀ n, n ∈ ["editor", "viewer"] ↔ n ∈ ["viewer", "editor", "editor"]) ∧
      Graph.can ⟨((∅ : Std.TreeMap String Role).insert "editor"
            ⟨"editor", "", [⟨"/docs/*", ["PUT"]⟩], ["viewer"]⟩).insert "viewer"
            ⟨"viewer", "", [⟨"/docs/*", ["GET"]⟩], []⟩, ∅⟩
          ["editor", "viewer"] "/docs/1" "GET" =
        Graph.can ⟨((∅ : Std.TreeMap String Role).insert "editor"
            ⟨"editor", "", [⟨"/docs/*", ["PUT"]⟩], ["viewer"]⟩).insert "viewer"
            ⟨"viewer", "", [⟨"/docs/*", ["GET"]⟩], []⟩, ∅⟩
          ["viewer", "editor", "editor"] "/docs/1" "GET" := by
  have h : ∀ n, n ∈ ["editor", "viewer"] ↔ n ∈ ["viewer", "editor", "editor"] := by
    intro n
    simp only [List.mem_cons, List.not_mem_nil, or_false]
    constructor
    · rintro (h | h) <;> simp [h]
    · rintro (h | h | h) <;> simp [h]
  exact ⟨h, (roles_resolve_depth_first _).2.2.2.1 _ _ _ _ h⟩

end Warden.Rbac.Graph
