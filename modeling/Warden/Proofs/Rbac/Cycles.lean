import Mathlib.Data.List.Chain
import Mathlib.Logic.Relation
import Warden.Proofs.Rbac.Resolution
/-!
# Inheritance cycles

Roles inherit from parents. Given the role each name stands for (`named`),
one name leads to another when the second is a parent of the first's role
and stands for a role too (`Inherits`); inheritance is acyclic when no name
leads back to itself in one step or more (`Acyclic`). A cycle is written as
the list of names it passes, the first again at the end (`IsCycle`).

Loading a role graph looks for a cycle by a depth-first search over the
roles in name order, each role's parents in the order it lists them. The
search keeps the path from the role it started at, and the roles it has
finished: a finished role is skipped, and a role met again on the path
closes a cycle, reported from that role on. `Search` is that search without
fuel, one rule per case. With the fuel it is given, `visit` is the search
(`search_visit`): a deeper call takes a role not yet on the path, and the
path never holds more roles than the graph has (`length_le_size`).

The search is right both ways. A cycle it reports is a cycle
(`Search.isCycle_of_error`): the path is a chain of parents, and the name met
again is a parent of the path's last role. A search that ends without one
has finished every role after all of its parents (`Topo`), so every finished
role is well founded under inheritance and lies on no cycle
(`Topo.not_transGen`). Hence `findCycle` finds a cycle exactly when there is
one (`findCycle_eq_none_iff`).
-/

namespace Warden.Rbac

open Relation

-- ============================================================ cycles

section Named

variable (named : String → Role → Prop)

/-- `m` is a parent of the role that `n` stands for, and stands for a role. -/
def Inherits (n m : String) : Prop := ∃ r, named n r ∧ m ∈ r.inherits ∧ ∃ q, named m q

/-- No name leads back to itself through its parents. -/
def Acyclic : Prop := ∀ n, ¬ TransGen (Inherits named) n n

/-- `cs` is a cycle `c₀ → c₁ → … → cₖ` with `c₀ = cₖ`: every name stands for
    a role, and each is a parent of the one before. -/
structure IsCycle (cs : List String) : Prop where
  length : 2 ≤ cs.length
  closed : cs.head? = cs.getLast?
  known : ∀ c ∈ cs, ∃ r, named c r
  parents : cs.IsChain fun a b => ∃ r, named a r ∧ b ∈ r.inherits

variable {named}

/-- A cycle leads from its first name back to it. -/
theorem IsCycle.transGen {cs : List String} (h : IsCycle named cs) :
    ∃ n, TransGen (Inherits named) n n := by
  obtain ⟨hl, hc, hk, hp⟩ := h
  match cs, hl with
  | a :: b :: rest, _ =>
    have hedges : (a :: b :: rest).IsChain (Inherits named) := by
      refine List.IsChain.imp_of_mem_imp (fun x y hx hy ⟨r, hr, hm⟩ => ?_) hp
      exact ⟨r, hr, hm, hk y hy⟩
    have hrest : ReflTransGen (Inherits named) b ((b :: rest).getLast (List.cons_ne_nil _ _)) :=
      List.relationReflTransGen_of_exists_isChain_cons rest (List.isChain_cons_cons.1 hedges).2 rfl
    have hlast : (b :: rest).getLast (List.cons_ne_nil _ _) = a := by
      have := hc.symm
      rw [List.getLast?_cons_cons, List.getLast?_eq_some_getLast (List.cons_ne_nil _ _),
        List.head?_cons, Option.some.injEq] at this
      exact this
    rw [hlast] at hrest
    exact ⟨a, TransGen.head' (List.isChain_cons_cons.1 hedges).1 hrest⟩

theorem not_acyclic_of_isCycle {cs : List String} (h : IsCycle named cs) : ¬ Acyclic named := by
  obtain ⟨n, hn⟩ := h.transGen
  exact fun ha => ha n hn

end Named

namespace Graph

variable {g : Graph}

/-- The role a name stands for in a graph. -/
def Named (g : Graph) (n : String) (r : Role) : Prop := g.role? n = some r

-- ============================================================ the search

/-- The depth-first search for a cycle over the names `ns`, in order, with
    the roles on the path and those finished: it ends with the roles
    finished, or with the text of the first cycle it meets. -/
inductive Search (g : Graph) : List String → List String → List String →
    Except String (List String) → Prop where
  | nil {path done : List String} : Search g path done [] (.ok done)
  | finished {path done : List String} {n : String} {ns : List String}
      {res : Except String (List String)} :
      n ∈ done → Search g path done ns res → Search g path done (n :: ns) res
  | back {path done : List String} {n : String} {ns : List String} :
      n ∉ done → n ∈ path → Search g path done (n :: ns) (.error (cycleText path n))
  | unknown {path done : List String} {n : String} {ns : List String}
      {res : Except String (List String)} :
      n ∉ done → n ∉ path → g.role? n = none → Search g path done ns res →
      Search g path done (n :: ns) res
  | enter {path done d : List String} {n : String} {ns : List String} {r : Role}
      {res : Except String (List String)} :
      n ∉ done → n ∉ path → g.role? n = some r → Search g (path ++ [n]) done r.inherits (.ok d) →
      Search g path (d ++ [n]) ns res → Search g path done (n :: ns) res
  | fail {path done : List String} {n c : String} {ns : List String} {r : Role} :
      n ∉ done → n ∉ path → g.role? n = some r →
      Search g (path ++ [n]) done r.inherits (.error c) → Search g path done (n :: ns) (.error c)

namespace Search

/-- A search has one outcome. -/
theorem det {path done ns : List String} {r₁ r₂ : Except String (List String)}
    (h₁ : Search g path done ns r₁) (h₂ : Search g path done ns r₂) : r₁ = r₂ := by
  induction h₁ generalizing r₂ with
  | nil => cases h₂; rfl
  | finished hd _ ih =>
    cases h₂ with
    | finished _ h₂ => exact ih h₂
    | back hd' => exact absurd hd hd'
    | unknown hd' => exact absurd hd hd'
    | enter hd' => exact absurd hd hd'
    | fail hd' => exact absurd hd hd'
  | back hd hp =>
    cases h₂ with
    | finished hd' => exact absurd hd' hd
    | back => rfl
    | unknown _ hp' => exact absurd hp hp'
    | enter _ hp' => exact absurd hp hp'
    | fail _ hp' => exact absurd hp hp'
  | unknown hd hp hr _ ih =>
    cases h₂ with
    | finished hd' => exact absurd hd' hd
    | back _ hp' => exact absurd hp' hp
    | unknown _ _ _ h₂ => exact ih h₂
    | enter _ _ hr' => rw [hr] at hr'; cases hr'
    | fail _ _ hr' => rw [hr] at hr'; cases hr'
  | enter hd hp hr _ _ ih₁ ih₂ =>
    cases h₂ with
    | finished hd' => exact absurd hd' hd
    | back _ hp' => exact absurd hp' hp
    | unknown _ _ hr' => rw [hr] at hr'; cases hr'
    | enter _ _ hr' hs₁ hs₂ =>
      rw [hr] at hr'
      cases hr'
      cases ih₁ hs₁
      exact ih₂ hs₂
    | fail _ _ hr' hs₁ =>
      rw [hr] at hr'
      cases hr'
      cases ih₁ hs₁
  | fail hd hp hr _ ih =>
    cases h₂ with
    | finished hd' => exact absurd hd' hd
    | back _ hp' => exact absurd hp' hp
    | unknown _ _ hr' => rw [hr] at hr'; cases hr'
    | enter _ _ hr' hs₁ =>
      rw [hr] at hr'
      cases hr'
      cases ih hs₁
    | fail _ _ hr' hs₁ =>
      rw [hr] at hr'
      cases hr'
      exact ih hs₁

end Search

-- ============================================================ fuel

/-- A path of distinct roles is no longer than the graph has roles. -/
theorem length_le_size {path : List String} (hn : path.Nodup)
    (hk : ∀ x ∈ path, ∃ r, g.role? x = some r) : path.length ≤ g.roles.size := by
  rw [← Std.TreeMap.length_keys]
  refine List.Nodup.length_le_of_subset hn fun x hx => ?_
  obtain ⟨r, hr⟩ := hk x hx
  exact mem_keys_of_role? hr

/-- With fuel beyond the roles off the path, `visit` over a list of names
    is the search. -/
theorem search_visit (fuel : Nat) :
    ∀ {path : List String}, path.Nodup → (∀ x ∈ path, ∃ r, g.role? x = some r) →
      g.roles.size < fuel + path.length →
      ∀ ns done, Search g path done ns (ns.foldlM (fun d p => g.visit fuel p path d) done) := by
  induction fuel with
  | zero =>
    intro path hn hk hb
    have := length_le_size hn hk
    omega
  | succ fuel ih =>
    intro path hn hk hb ns
    induction ns with
    | nil => exact fun done => .nil
    | cons n ns ihns =>
      intro done
      rw [List.foldlM_cons]
      by_cases hd : n ∈ done
      · have hv : g.visit (fuel + 1) n path done = .ok done := by simp [visit, hd]
        rw [hv]
        exact .finished hd (ihns done)
      by_cases hp : n ∈ path
      · have hv : g.visit (fuel + 1) n path done = .error (cycleText path n) := by
          simp [visit, hd, hp]
        rw [hv]
        exact .back hd hp
      cases hr : g.role? n with
      | none =>
        have hv : g.visit (fuel + 1) n path done = .ok done := by
          have hr' : g.roles[n]? = none := by rw [← Std.TreeMap.get?_eq_getElem?]; exact hr
          simp [visit, hd, hp, hr']
        rw [hv]
        exact .unknown hd hp hr (ihns done)
      | some r =>
        -- the role goes on the path: one less fuel, one more role on the path
        have hs := @ih (path ++ [n]) (List.nodup_append.2 ⟨hn, by simp,
            fun a ha b hb => by rw [List.mem_singleton] at hb; exact fun h => hp (hb ▸ h ▸ ha)⟩)
          (fun x hx => by
            rcases List.mem_append.1 hx with hx | hx
            · exact hk x hx
            · rw [List.mem_singleton] at hx
              exact ⟨r, hx ▸ hr⟩)
          (by simp only [List.length_append, List.length_singleton]; omega) r.inherits done
        have hv : g.visit (fuel + 1) n path done =
            (r.inherits.foldlM (fun d p => g.visit fuel p (path ++ [n]) d) done).map
              (· ++ [n]) := by
          have hr' : g.roles.get? n = some r := hr
          simp only [visit, List.contains_iff_mem, hd, hp, hr', if_false]
          cases r.inherits.foldlM (fun d p => g.visit fuel p (path ++ [n]) d) done <;> rfl
        rw [hv]
        cases hf : r.inherits.foldlM (fun d p => g.visit fuel p (path ++ [n]) d) done with
        | error c =>
          rw [hf] at hs
          exact .fail hd hp hr hs
        | ok d =>
          rw [hf] at hs
          exact .enter hd hp hr hs (ihns (d ++ [n]))

/-- The search from every role in name order, with nothing on the path and
    nothing finished, is what `findCycle` runs. -/
theorem search_names (g : Graph) :
    Search g [] [] g.names
      (g.roles.keys.foldlM (fun done name => g.visit (g.roles.size + 1) name [] done) []) :=
  search_visit (g.roles.size + 1) List.nodup_nil (fun _ h => absurd h List.not_mem_nil)
    (by simp) g.names []

/-- `findCycle` reports the cycle that the search meets first, and nothing
    when the search finishes. -/
theorem findCycle_eq_some_iff (g : Graph) (c : String) :
    g.findCycle = some c ↔ Search g [] [] g.names (.error c) := by
  have hs := search_names g
  unfold findCycle
  constructor
  · intro h
    split at h
    · cases h
    · rename_i c' hc
      cases h
      rw [hc] at hs
      exact hs
  · intro h
    rw [Search.det hs h]

theorem findCycle_eq_none_iff_search (g : Graph) :
    g.findCycle = none ↔ ∃ d, Search g [] [] g.names (.ok d) := by
  have hs := search_names g
  unfold findCycle
  constructor
  · intro h
    split at h
    · rename_i d hd
      rw [hd] at hs
      exact ⟨d, hs⟩
    · cases h
  · rintro ⟨d, h⟩
    rw [Search.det hs h]

-- ============================================================ a reported cycle is a cycle

/-- The path of a search is a chain of parents through known roles, and the
    names to visit are parents of its last role. -/
structure Stack (g : Graph) (path ns : List String) : Prop where
  chain : path.IsChain fun a b => ∃ r, g.Named a r ∧ b ∈ r.inherits
  known : ∀ x ∈ path, ∃ r, g.Named x r
  parents : ∀ x ∈ path.getLast?, ∀ n ∈ ns, ∃ r, g.Named x r ∧ n ∈ r.inherits

theorem Stack.tail {path ns : List String} {n : String} (h : Stack g path (n :: ns)) :
    Stack g path ns :=
  ⟨h.chain, h.known, fun x hx m hm => h.parents x hx m (List.mem_cons_of_mem n hm)⟩

/-- Entering the role of `n` puts `n` on the path, with the role's parents
    to visit. -/
theorem Stack.enter {path ns : List String} {n : String} {r : Role} (h : Stack g path (n :: ns))
    (hr : g.role? n = some r) : Stack g (path ++ [n]) r.inherits := by
  refine ⟨?_, fun x hx => ?_, fun x hx m hm => ?_⟩
  · refine List.isChain_append.2 ⟨h.chain, List.isChain_singleton n, fun x hx y hy => ?_⟩
    rw [List.head?_cons, Option.mem_def, Option.some.injEq] at hy
    exact hy ▸ h.parents x hx n List.mem_cons_self
  · rcases List.mem_append.1 hx with hx | hx
    · exact h.known x hx
    · rw [List.mem_singleton] at hx
      exact ⟨r, hx ▸ hr⟩
  · rw [List.getLast?_append, List.getLast?_singleton, Option.some_or, Option.mem_def,
      Option.some.injEq] at hx
    exact ⟨r, hx ▸ hr, hm⟩

/-- A name met again on the path closes a cycle from its place on the path. -/
theorem Stack.isCycle {path ns : List String} {n : String} (h : Stack g path (n :: ns))
    (hp : n ∈ path) : IsCycle g.Named (path.drop (path.idxOf n) ++ [n]) := by
  have hi : path.idxOf n < path.length := List.idxOf_lt_length_of_mem hp
  have hne : path.drop (path.idxOf n) ≠ [] := by simpa using hi
  have hhead : (path.drop (path.idxOf n)).head? = some n := by
    rw [List.head?_drop, List.getElem?_eq_getElem hi, List.getElem_idxOf hi]
  have hlast : (path.drop (path.idxOf n)).getLast? = path.getLast? := by
    rw [List.getLast?_drop, if_neg (by omega)]
  refine ⟨?_, ?_, fun c hc => ?_, ?_⟩
  · rw [List.length_append, List.length_drop, List.length_singleton]
    omega
  · rw [List.head?_append, hhead, List.getLast?_append, List.getLast?_singleton]
    rfl
  · rcases List.mem_append.1 hc with hc | hc
    · exact h.known c (List.mem_of_mem_drop hc)
    · rw [List.mem_singleton] at hc
      exact hc ▸ h.known n hp
  · refine List.isChain_append.2 ⟨h.chain.drop _, List.isChain_singleton n, fun x hx y hy => ?_⟩
    rw [List.head?_cons, Option.mem_def, Option.some.injEq] at hy
    rw [hlast] at hx
    exact hy ▸ h.parents x hx n List.mem_cons_self

/-- A cycle that the search reports is a cycle, written from the name met
    again on the path. -/
theorem Search.isCycle_of_error {path done ns : List String} {res : Except String (List String)}
    (h : Search g path done ns res) (hs : Stack g path ns) :
    ∀ c, res = .error c → ∃ cs, c = " -> ".intercalate cs ∧ IsCycle g.Named cs := by
  induction h with
  | nil => exact fun _ he => nomatch he
  | finished _ _ ih => exact ih hs.tail
  | @back path _ n _ _ hp =>
    intro c he
    cases he
    exact ⟨_, rfl, hs.isCycle hp⟩
  | unknown _ _ _ _ ih => exact ih hs.tail
  | enter _ _ _ _ _ _ ih₂ => exact ih₂ hs.tail
  | fail _ _ hr _ ih =>
    intro c he
    exact ih (hs.enter hr) c he

-- ============================================================ a finished search has no cycle

/-- Roles finished each after every parent it has. -/
inductive Topo (g : Graph) : List String → Prop where
  | nil : Topo g []
  | snoc {d : List String} {n : String} :
      Topo g d → (∀ m, Inherits g.Named n m → m ∈ d) → Topo g (d ++ [n])

/-- A finished role is well founded under inheritance. -/
theorem Topo.acc {d : List String} (h : Topo g d) :
    ∀ n ∈ d, Acc (Function.swap (Inherits g.Named)) n := by
  induction h with
  | nil => exact fun _ hn => absurd hn List.not_mem_nil
  | snoc _ hpar ih =>
    intro m hm
    rcases List.mem_append.1 hm with hm | hm
    · exact ih m hm
    · rw [List.mem_singleton] at hm
      subst hm
      exact Acc.intro m fun p hp => ih p (hpar p hp)

theorem not_rel_self_of_acc {α : Type} {r : α → α → Prop} {a : α} (h : Acc r a) : ¬ r a a := by
  induction h with
  | intro x _ ih => exact fun hx => ih x hx hx

/-- A finished role lies on no cycle. -/
theorem Topo.not_transGen {d : List String} (h : Topo g d) {n : String} (hn : n ∈ d) :
    ¬ TransGen (Inherits g.Named) n n := fun hc =>
  not_rel_self_of_acc (h.acc n hn).transGen (transGen_swap.2 hc)

/-- A search that finishes keeps what it was given finished, finishes every
    known name it visits, and finishes each role after its parents. -/
theorem Search.topo_of_ok {path done ns : List String} {res : Except String (List String)}
    (h : Search g path done ns res) :
    ∀ d, res = .ok d → Topo g done →
      Topo g d ∧ (∀ x ∈ done, x ∈ d) ∧ ∀ n ∈ ns, ∀ r, g.role? n = some r → n ∈ d := by
  induction h with
  | nil =>
    intro d he ht
    cases he
    exact ⟨ht, fun _ hx => hx, fun _ hn => absurd hn List.not_mem_nil⟩
  | finished hd _ ih =>
    intro d he ht
    obtain ⟨ht', hsub, hns⟩ := ih d he ht
    refine ⟨ht', hsub, fun m hm r hr => ?_⟩
    rcases List.mem_cons.1 hm with rfl | hm
    · exact hsub _ hd
    · exact hns m hm r hr
  | back => exact fun _ he => nomatch he
  | unknown _ _ hr _ ih =>
    intro d he ht
    obtain ⟨ht', hsub, hns⟩ := ih d he ht
    refine ⟨ht', hsub, fun m hm r' hr' => ?_⟩
    rcases List.mem_cons.1 hm with rfl | hm
    · rw [hr] at hr'
      cases hr'
    · exact hns m hm r' hr'
  | @enter path done d' n ns r _ _ _ hr _ _ ih₁ ih₂ =>
    intro d he ht
    -- the parents finish first, then the role itself, then the rest
    obtain ⟨ht₁, hsub₁, hpar⟩ := ih₁ d' rfl ht
    have ht₂ : Topo g (d' ++ [n]) :=
      .snoc ht₁ fun m ⟨q, hq, hm, q', hq'⟩ => by
        have hqr : q = r := Option.some.inj (hq.symm.trans hr)
        subst hqr
        exact hpar m hm q' hq'
    obtain ⟨ht', hsub₂, hns⟩ := ih₂ d he ht₂
    refine ⟨ht', fun x hx => hsub₂ x (List.mem_append_left _ (hsub₁ x hx)), fun m hm r' hr' => ?_⟩
    rcases List.mem_cons.1 hm with rfl | hm
    · exact hsub₂ _ (List.mem_append_right _ List.mem_cons_self)
    · exact hns m hm r' hr'
  | fail => exact fun _ he => nomatch he

-- ============================================================ the answer

/-- `findCycle` finds nothing exactly when inheritance is acyclic. -/
theorem findCycle_eq_none_iff (g : Graph) : g.findCycle = none ↔ Acyclic g.Named := by
  constructor
  · intro h n hn
    obtain ⟨d, hs⟩ := (findCycle_eq_none_iff_search g).1 h
    obtain ⟨ht, -, hall⟩ := hs.topo_of_ok d rfl .nil
    -- a name on a cycle stands for a role, which the search has finished
    obtain ⟨m, ⟨r, hr, -⟩, -⟩ := TransGen.head'_iff.1 hn
    exact ht.not_transGen (hall n (mem_keys_of_role? hr) r hr) hn
  · intro ha
    cases hc : g.findCycle with
    | none => rfl
    | some c =>
      have hs := (findCycle_eq_some_iff g c).1 hc
      obtain ⟨cs, -, hcs⟩ := hs.isCycle_of_error ⟨.nil, (fun _ h => nomatch h), fun _ h => nomatch h⟩
        c rfl
      exact absurd ha (not_acyclic_of_isCycle hcs)

/-- The text of a cycle that `findCycle` reports spells a cycle. -/
theorem isCycle_of_findCycle {g : Graph} {c : String} (h : g.findCycle = some c) :
    ∃ cs, c = " -> ".intercalate cs ∧ IsCycle g.Named cs :=
  ((findCycle_eq_some_iff g c).1 h).isCycle_of_error
    ⟨.nil, (fun _ h => nomatch h), fun _ h => nomatch h⟩ c rfl

end Graph

end Warden.Rbac
