import Warden.Proofs.Rbac.Resolution
import Warden.Proofs.Rbac.Cycles
/-!
# The role walks stop on their own

Both walks over the role graph carry fuel, but the fuel is a variant and
not a budget: on every graph, cyclic, self-inheriting, with repeated or
unknown parents, any two fuels beyond the walk's own measure give the same
answer, so the walk never reaches the bottom of its fuel.

- Collecting permissions goes deeper only through a role it has just marked
  visited, so the roles not yet visited (`unvisited`) fall by one on every
  nested call; fuel beyond that count is enough (`collect_fuel_congr`).
- The cycle search goes deeper only after putting a known role on a path
  where no role repeats (a repeat is the cycle it reports), so the path
  stays a list of distinct known roles and the nesting is no deeper than
  the roles off the path; fuel beyond that is enough (`visit_fuel_congr`).

The fuel the library passes, one more than the number of roles, is beyond
both measures at every call it makes (`unvisited_lt_size_succ`).
-/

namespace Warden.Rbac.Graph

variable {g : Graph}

/-- Collecting from a name gives one answer for every fuel beyond the roles
    not yet visited: both fuels walk from the name, and the walk is
    determined. -/
theorem collect_fuel_congr {n : String} {vis : List String} {out : List Permission}
    {fuel₁ fuel₂ : Nat} (h₁ : g.unvisited vis < fuel₁) (h₂ : g.unvisited vis < fuel₂) :
    g.collect fuel₁ n (vis, out) = g.collect fuel₂ n (vis, out) := by
  obtain ⟨new₁, hw₁, he₁⟩ := collect_walk fuel₁ n vis out h₁
  obtain ⟨new₂, hw₂, he₂⟩ := collect_walk fuel₂ n vis out h₂
  have hnew : new₁ = new₂ := List.append_cancel_left (hw₁.det hw₂)
  rw [he₁, he₂, hnew]

/-- Searching from a name, with a path of distinct known roles, gives one
    answer for every fuel beyond the roles off the path: both fuels run the
    search, and the search has one outcome. -/
theorem visit_fuel_congr {n : String} {path done : List String} {fuel₁ fuel₂ : Nat}
    (hn : path.Nodup) (hk : ∀ x ∈ path, ∃ r, g.role? x = some r)
    (h₁ : g.roles.size < fuel₁ + path.length) (h₂ : g.roles.size < fuel₂ + path.length) :
    g.visit fuel₁ n path done = g.visit fuel₂ n path done := by
  have hs₁ := search_visit fuel₁ hn hk h₁ [n] done
  have hs₂ := search_visit fuel₂ hn hk h₂ [n] done
  -- a search over the one name `n` is the visit of `n`
  simp only [List.foldlM_cons, List.foldlM_nil, bind_pure] at hs₁ hs₂
  exact hs₁.det hs₂

/-- On every role graph, both walks stop before their fuel does. Collecting
    from a name with some roles visited answers alike for every fuel beyond
    the roles not yet visited; the cycle search from a name, along a path of
    distinct known roles, answers alike for every fuel beyond the roles off
    the path; and the fuel the library passes, one more than the number of
    roles, is beyond the first measure for every visited list (and beyond
    the second on the empty path the search starts from). -/
theorem role_walks_terminate (g : Graph) :
    (∀ n vis out fuel₁ fuel₂, g.unvisited vis < fuel₁ → g.unvisited vis < fuel₂ →
        g.collect fuel₁ n (vis, out) = g.collect fuel₂ n (vis, out)) ∧
    (∀ n path done fuel₁ fuel₂, path.Nodup → (∀ x ∈ path, ∃ r, g.role? x = some r) →
        g.roles.size < fuel₁ + path.length → g.roles.size < fuel₂ + path.length →
        g.visit fuel₁ n path done = g.visit fuel₂ n path done) ∧
    (∀ vis, g.unvisited vis < g.roles.size + 1) :=
  ⟨fun _ _ _ _ _ h₁ h₂ => collect_fuel_congr h₁ h₂,
    fun _ _ _ _ _ hn hk h₁ h₂ => visit_fuel_congr hn hk h₁ h₂, unvisited_lt_size_succ g⟩

/-- A role that inherits itself, twice a role that inherits it back, and an
    unknown role: collecting and searching from it answer alike with three
    units of fuel and with nine. -/
theorem cyclic_roles_walk_alike :
    Graph.unvisited ⟨((∅ : Std.TreeMap String Role).insert "a"
        ⟨"a", "", [], ["a", "b", "b", "z"]⟩).insert "b" ⟨"b", "", [], ["a"]⟩, ∅⟩ [] < 3 ∧
      Graph.unvisited ⟨((∅ : Std.TreeMap String Role).insert "a"
        ⟨"a", "", [], ["a", "b", "b", "z"]⟩).insert "b" ⟨"b", "", [], ["a"]⟩, ∅⟩ [] < 9 ∧
      Graph.collect ⟨((∅ : Std.TreeMap String Role).insert "a"
          ⟨"a", "", [], ["a", "b", "b", "z"]⟩).insert "b" ⟨"b", "", [], ["a"]⟩, ∅⟩ 3 "a" ([], []) =
        Graph.collect ⟨((∅ : Std.TreeMap String Role).insert "a"
          ⟨"a", "", [], ["a", "b", "b", "z"]⟩).insert "b" ⟨"b", "", [], ["a"]⟩, ∅⟩ 9 "a" ([], []) ∧
      Graph.visit ⟨((∅ : Std.TreeMap String Role).insert "a"
          ⟨"a", "", [], ["a", "b", "b", "z"]⟩).insert "b" ⟨"b", "", [], ["a"]⟩, ∅⟩ 3 "a" [] [] =
        Graph.visit ⟨((∅ : Std.TreeMap String Role).insert "a"
          ⟨"a", "", [], ["a", "b", "b", "z"]⟩).insert "b" ⟨"b", "", [], ["a"]⟩, ∅⟩ 9 "a" [] [] := by
  have h₃ : Graph.unvisited ⟨((∅ : Std.TreeMap String Role).insert "a"
      ⟨"a", "", [], ["a", "b", "b", "z"]⟩).insert "b" ⟨"b", "", [], ["a"]⟩, ∅⟩ [] < 3 := by decide
  have h₉ : Graph.unvisited ⟨((∅ : Std.TreeMap String Role).insert "a"
      ⟨"a", "", [], ["a", "b", "b", "z"]⟩).insert "b" ⟨"b", "", [], ["a"]⟩, ∅⟩ [] < 9 := by decide
  have hw := role_walks_terminate ⟨((∅ : Std.TreeMap String Role).insert "a"
      ⟨"a", "", [], ["a", "b", "b", "z"]⟩).insert "b" ⟨"b", "", [], ["a"]⟩, ∅⟩
  refine ⟨h₃, h₉, hw.1 "a" [] [] 3 9 h₃ h₉,
    hw.2.1 "a" [] [] 3 9 List.nodup_nil (fun _ h => absurd h List.not_mem_nil) ?_ ?_⟩
  · decide
  · decide

end Warden.Rbac.Graph
