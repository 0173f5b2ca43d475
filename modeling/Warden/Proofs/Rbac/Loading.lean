import Mathlib.Data.List.Nodup
import Warden.Proofs.Rbac.Cycles
/-!
# Loading a role document

Loading indexes the roles of a document in key order (`indexRole`): a role
with no name, or with a name already taken, stops it. What it builds
indexes every role under its name and every key under the name of its role
(`Indexes`); the fold does so exactly when the roles are well named
(`index_eq_ok`, `index_ok_of_wellNamed`). Loading then refuses inheritance
cycles (`Warden.Rbac.Graph.findCycle_eq_none_iff`).

So a document loads exactly when its roles are named, their names distinct,
and inheritance among them acyclic (`load_accepts_named_acyclic`). A loaded
graph lists the document's roles in name order, finds each role by its
name, and sends each key of the document to the name of its role, one key
per name. A refused cycle is reported as a cycle of the document, the first
that the depth-first search meets; its message is no other refusal's
(`index_error_ne_cycle`).
-/

namespace Warden.Rbac

-- ============================================================ documents

namespace Document

/-- A role of the document with the name `n`. -/
def Named (d : Document) (n : String) (r : Role) : Prop := r ∈ d.roles.values ∧ r.name = n

end Document

/-- Every role has a name, and no two roles share one. -/
def WellNamed (rs : List Role) : Prop := (∀ r ∈ rs, r.name ≠ "") ∧ (rs.map Role.name).Nodup

/-- The roles of a map, in key order. -/
theorem values_eq_map_snd (t : Std.TreeMap String Role) : t.values = t.toList.map Prod.snd := by
  show t.foldr (fun _ v l => v :: l) [] = _
  rw [Std.TreeMap.foldr_eq_foldr_toList]
  induction t.toList with
  | nil => rfl
  | cons a l ih => simp [ih]

theorem mem_values_iff {t : Std.TreeMap String Role} {r : Role} :
    r ∈ t.values ↔ ∃ k : String, t[k]? = some r := by
  simp [values_eq_map_snd]

theorem nodup_map_fst_toList (t : Std.TreeMap String Role) : (t.toList.map Prod.fst).Nodup := by
  rw [Std.TreeMap.map_fst_toList_eq_keys]
  exact Std.TreeMap.nodup_keys

theorem string_lt_of_compare {a b : String} (h : compare a b = .lt) : a < b :=
  compareOfLessAndEq_eq_lt.1 h

namespace Graph

variable {g g' : Graph} {es : List (String × Role)}

-- ============================================================ one role

/-- `g` indexes the roles of the entries `es`, each a key and its role: by
    name, and each key under the name of its role. -/
structure Indexes (es : List (String × Role)) (g : Graph) : Prop where
  roles : ∀ n r, g.role? n = some r ↔ r ∈ es.map Prod.snd ∧ r.name = n
  keys : ∀ k n, g.nameForKey? k = some n ↔ ∃ r, (k, r) ∈ es ∧ r.name = n

theorem indexes_nil : Indexes [] ⟨∅, ∅⟩ where
  roles n r := by simp [role?]
  keys k n := by simp [nameForKey?]

theorem Indexes.mem_iff (h : Indexes es g) {n : String} :
    n ∈ g.roles ↔ ∃ r ∈ es.map Prod.snd, r.name = n := by
  rw [Std.TreeMap.mem_iff_isSome_getElem?, Option.isSome_iff_exists]
  simp only [← Std.TreeMap.get?_eq_getElem?]
  constructor
  · rintro ⟨r, hr⟩
    exact ⟨r, (h.roles n r).1 hr⟩
  · rintro ⟨r, hr⟩
    exact ⟨r, (h.roles n r).2 hr⟩

theorem indexRole_eq_ok {k : String} {r : Role} :
    indexRole g k r = .ok g' ↔
      r.name ≠ "" ∧ r.name ∉ g.roles ∧ g' = ⟨g.roles.insert r.name r, g.keys.insert k r.name⟩ := by
  unfold indexRole
  by_cases he : r.name.isEmpty = true
  · simp only [he, if_true, reduceCtorEq, false_iff]
    exact fun h => h.1 (String.isEmpty_iff.1 he)
  · have hn : r.name ≠ "" := fun h => he (String.isEmpty_iff.2 h)
    by_cases hc : g.roles.contains r.name = true
    · simp only [he, hc, Bool.false_eq_true, if_false, if_true, reduceCtorEq, false_iff]
      exact fun h => h.2.1 (Std.TreeMap.mem_iff_contains.2 hc)
    · have hm : r.name ∉ g.roles := fun h => hc (Std.TreeMap.mem_iff_contains.1 h)
      simp only [he, hc, Bool.false_eq_true, if_false, Except.ok.injEq]
      exact ⟨fun h => ⟨hn, hm, h.symm⟩, fun h => h.2.2.symm⟩

/-- A role is refused for its missing name or for its taken name. -/
theorem indexRole_error {k : String} {r : Role} {e : Error} (h : indexRole g k r = .error e) :
    e = .config ("角色 " ++ k ++ " 缺少 name") ∨ e = .config ("角色名重复: " ++ r.name) := by
  unfold indexRole at h
  split at h
  · cases h
    exact .inl rfl
  · split at h
    · cases h
      exact .inr rfl
    · cases h

/-- Indexing one more role, with a key not yet used and a name not yet
    taken, indexes it too. -/
theorem Indexes.snoc (h : Indexes es g) {k : String} {r : Role} (hk : k ∉ es.map Prod.fst)
    (hn : r.name ∉ g.roles) :
    Indexes (es ++ [(k, r)]) ⟨g.roles.insert r.name r, g.keys.insert k r.name⟩ := by
  refine ⟨fun n q => ?_, fun k' n => ?_⟩
  · simp only [role?, Std.TreeMap.get?_eq_getElem?, Std.TreeMap.getElem?_insert,
      Std.LawfulEqOrd.compare_eq_iff_eq, List.map_append, List.map_singleton, List.mem_append, List.mem_singleton]
    by_cases hrn : r.name = n
    · subst hrn
      simp only [if_true, Option.some.injEq]
      constructor
      · rintro rfl
        exact ⟨.inr rfl, rfl⟩
      · -- an earlier role with this name would have taken it
        rintro ⟨hq | rfl, hqn⟩
        · exact absurd (h.mem_iff.2 ⟨q, hq, hqn⟩) hn
        · rfl
    · rw [if_neg hrn, ← Std.TreeMap.get?_eq_getElem?, ← role?, h.roles n q]
      constructor
      · rintro ⟨hq, hqn⟩
        exact ⟨.inl hq, hqn⟩
      · rintro ⟨hq | rfl, hqn⟩
        · exact ⟨hq, hqn⟩
        · exact absurd hqn hrn
  · simp only [nameForKey?, Std.TreeMap.get?_eq_getElem?, Std.TreeMap.getElem?_insert,
      Std.LawfulEqOrd.compare_eq_iff_eq]
    by_cases hkk : k = k'
    · subst hkk
      rw [if_pos rfl, Option.some.injEq]
      constructor
      · rintro rfl
        exact ⟨r, List.mem_append_right _ (List.mem_singleton_self _), rfl⟩
      · -- the key is new, so its one entry is this role's
        rintro ⟨q, hq, hqn⟩
        rcases List.mem_append.1 hq with hq | hq
        · exact absurd (List.mem_map_of_mem (f := Prod.fst) hq) hk
        · rw [List.mem_singleton, Prod.mk.injEq] at hq
          exact hq.2 ▸ hqn
    · rw [if_neg hkk, ← Std.TreeMap.get?_eq_getElem?, ← nameForKey?, h.keys k' n]
      constructor
      · rintro ⟨q, hq, hqn⟩
        exact ⟨q, List.mem_append_left _ hq, hqn⟩
      · rintro ⟨q, hq, hqn⟩
        rcases List.mem_append.1 hq with hq | hq
        · exact ⟨q, hq, hqn⟩
        · rw [List.mem_singleton, Prod.mk.injEq] at hq
          exact absurd hq.1.symm hkk

-- ============================================================ the fold

/-- Indexing the entries `es` after those of `P` succeeds only when all are
    well named, and then indexes all of them. -/
theorem foldlM_indexRole_ok (es : List (String × Role)) :
    ∀ (P : List (String × Role)) (g g' : Graph), Indexes P g → WellNamed (P.map Prod.snd) →
      ((P ++ es).map Prod.fst).Nodup →
      es.foldlM (fun g e => indexRole g e.1 e.2) g = .ok g' →
      WellNamed ((P ++ es).map Prod.snd) ∧ Indexes (P ++ es) g' := by
  induction es with
  | nil =>
    intro P g g' hi hw _ he
    cases he
    simpa using ⟨hw, hi⟩
  | cons e es ih =>
    intro P g g' hi hw hk he
    rw [List.foldlM_cons] at he
    cases hr : indexRole g e.1 e.2 with
    | error err => rw [hr] at he; cases he
    | ok g₁ =>
      rw [hr] at he
      obtain ⟨hn, hm, rfl⟩ := indexRole_eq_ok.1 hr
      have hk' : ((P ++ [e]) ++ es).map Prod.fst |>.Nodup := by simpa using hk
      have hkP : e.1 ∉ P.map Prod.fst := by
        simp only [List.map_append, List.map_cons] at hk
        exact fun h => (List.nodup_append.1 hk).2.2 _ h _ List.mem_cons_self rfl
      -- the new role keeps the names distinct: its name was not taken
      have hw₁ : WellNamed ((P ++ [e]).map Prod.snd) := by
        refine ⟨fun q hq => ?_, ?_⟩
        · simp only [List.map_append, List.map_singleton, List.mem_append, List.mem_singleton] at hq
          rcases hq with hq | rfl
          · exact hw.1 q hq
          · exact hn
        · simp only [List.map_append, List.map_singleton, List.map_map]
          refine List.nodup_append.2 ⟨by simpa [List.map_map] using hw.2, by simp,
            fun a ha b hb hab => ?_⟩
          rw [List.mem_singleton] at hb
          obtain ⟨q, hq, rfl⟩ := List.mem_map.1 ha
          exact hm (hi.mem_iff.2 ⟨q.2, List.mem_map_of_mem hq, hab.trans hb⟩)
      obtain ⟨hw', hi'⟩ := ih (P ++ [e]) _ g' (hi.snoc hkP hm) hw₁ hk' he
      rw [List.append_assoc, List.singleton_append] at hw' hi'
      exact ⟨hw', hi'⟩

/-- Well-named entries with distinct keys are all indexed. -/
theorem foldlM_indexRole_of_wellNamed (es : List (String × Role)) :
    ∀ (P : List (String × Role)) (g : Graph), Indexes P g → WellNamed ((P ++ es).map Prod.snd) →
      ((P ++ es).map Prod.fst).Nodup →
      ∃ g', es.foldlM (fun g e => indexRole g e.1 e.2) g = .ok g' := by
  induction es with
  | nil => exact fun _ g _ _ _ => ⟨g, rfl⟩
  | cons e es ih =>
    intro P g hi hw hk
    have hn : e.2.name ≠ "" := hw.1 e.2 (by simp)
    -- an earlier role with the same name would repeat a name
    have hm : e.2.name ∉ g.roles := by
      intro h
      obtain ⟨q, hq, hqn⟩ := hi.mem_iff.1 h
      obtain ⟨x, hx, rfl⟩ := List.mem_map.1 hq
      have hnd := hw.2
      simp only [List.map_append, List.map_cons, List.map_map] at hnd
      exact (List.nodup_append.1 hnd).2.2 _ (List.mem_map_of_mem hx) _ List.mem_cons_self hqn
    have hkP : e.1 ∉ P.map Prod.fst := by
      simp only [List.map_append, List.map_cons] at hk
      exact fun h => (List.nodup_append.1 hk).2.2 _ h _ List.mem_cons_self rfl
    have hr : indexRole g e.1 e.2 = .ok ⟨g.roles.insert e.2.name e.2, g.keys.insert e.1 e.2.name⟩ :=
      indexRole_eq_ok.2 ⟨hn, hm, rfl⟩
    rw [List.foldlM_cons, hr]
    exact ih (P ++ [e]) _ (hi.snoc hkP hm) (by simpa using hw) (by simpa using hk)

/-- A refusal of the fold is a refusal of one of its roles. -/
theorem foldlM_indexRole_error (es : List (String × Role)) :
    ∀ (g : Graph) (err : Error), es.foldlM (fun g e => indexRole g e.1 e.2) g = .error err →
      ∃ k r, (k, r) ∈ es ∧
        (err = .config ("角色 " ++ k ++ " 缺少 name") ∨ err = .config ("角色名重复: " ++ r.name)) := by
  induction es with
  | nil => exact fun _ _ h => nomatch h
  | cons e es ih =>
    intro g err he
    rw [List.foldlM_cons] at he
    cases hr : indexRole g e.1 e.2 with
    | error err' =>
      rw [hr] at he
      cases he
      exact ⟨e.1, e.2, List.mem_cons_self, indexRole_error hr⟩
    | ok g₁ =>
      rw [hr] at he
      obtain ⟨k, r, hm, hr'⟩ := ih g₁ err he
      exact ⟨k, r, List.mem_cons_of_mem e hm, hr'⟩

-- ============================================================ documents

theorem index_eq_foldlM (d : Document) :
    index d = d.roles.toList.foldlM (fun g e => indexRole g e.1 e.2) ⟨∅, ∅⟩ :=
  Std.TreeMap.foldlM_eq_foldlM_toList

/-- A document indexes only when its roles are well named, and then by
    name and by key. -/
theorem index_eq_ok {d : Document} (h : index d = .ok g) :
    WellNamed d.roles.values ∧ Indexes d.roles.toList g := by
  rw [index_eq_foldlM] at h
  have := foldlM_indexRole_ok d.roles.toList [] _ g indexes_nil ⟨nofun, List.nodup_nil⟩
    (nodup_map_fst_toList d.roles) h
  rw [List.nil_append] at this
  rw [values_eq_map_snd]
  exact this

theorem index_ok_of_wellNamed {d : Document} (h : WellNamed d.roles.values) :
    ∃ g, index d = .ok g := by
  rw [index_eq_foldlM]
  rw [values_eq_map_snd] at h
  exact foldlM_indexRole_of_wellNamed d.roles.toList [] _ indexes_nil h (nodup_map_fst_toList d.roles)

/-- The refusals of indexing are worded unlike the refusal of a cycle. -/
theorem index_error_ne_cycle {d : Document} {err : Error} (h : index d = .error err) (c : String) :
    err ≠ .config ("角色继承存在循环: " ++ c) := by
  rw [index_eq_foldlM] at h
  obtain ⟨k, r, -, rfl | rfl⟩ := foldlM_indexRole_error _ _ err h
  all_goals
    intro he
    have := congrArg (fun s => s.toList.take 3) (Error.config.inj he)
    simp at this

-- ============================================================ a loaded graph

section Indexed

variable {d : Document} (hw : WellNamed d.roles.values) (hi : Indexes d.roles.toList g)
include hi

/-- A name stands for the same role in the graph as in its document. -/
theorem Indexes.named_eq : g.Named = d.Named := by
  funext n r
  rw [Named, hi.roles n r, ← values_eq_map_snd]
  rfl

/-- Each role of the graph sits under its own name. -/
theorem Indexes.names_eq : g.names = g.list.map Role.name := by
  rw [names, list, values_eq_map_snd, List.map_map, ← Std.TreeMap.map_fst_toList_eq_keys]
  refine List.map_congr_left fun e he => ?_
  have hr : g.role? e.1 = some e.2 := by
    rw [role?, Std.TreeMap.get?_eq_getElem?]
    exact Std.TreeMap.mem_toList_iff_getElem?_eq_some.1 he
  exact ((hi.roles e.1 e.2).1 hr).2.symm

/-- A key of the document stands for the name of its role, and nothing
    else does. -/
theorem Indexes.nameForKey?_eq (k : String) : g.nameForKey? k = d.roles[k]?.map Role.name := by
  cases hk : d.roles[k]? with
  | some r =>
    exact (hi.keys k r.name).2 ⟨r, Std.TreeMap.mem_toList_iff_getElem?_eq_some.2 hk, rfl⟩
  | none =>
    cases hn : g.nameForKey? k with
    | none => rfl
    | some n =>
      obtain ⟨r, hr, -⟩ := (hi.keys k n).1 hn
      rw [Std.TreeMap.mem_toList_iff_getElem?_eq_some, hk] at hr
      cases hr

theorem Indexes.mem_names_iff (n : String) : n ∈ g.names ↔ ∃ k, g.nameForKey? k = some n := by
  rw [names, Std.TreeMap.mem_keys, hi.mem_iff]
  simp only [hi.nameForKey?_eq, Option.map_eq_some_iff, List.mem_map]
  constructor
  · rintro ⟨r, ⟨e, he, rfl⟩, rfl⟩
    exact ⟨e.1, e.2, Std.TreeMap.mem_toList_iff_getElem?_eq_some.1 he, rfl⟩
  · rintro ⟨k, r, hr, rfl⟩
    exact ⟨r, ⟨(k, r), Std.TreeMap.mem_toList_iff_getElem?_eq_some.2 hr, rfl⟩, rfl⟩

include hw

/-- No two keys stand for one name. -/
theorem Indexes.nameForKey?_inj {k₁ k₂ n : String} (h₁ : g.nameForKey? k₁ = some n)
    (h₂ : g.nameForKey? k₂ = some n) : k₁ = k₂ := by
  obtain ⟨r₁, hr₁, rfl⟩ := (hi.keys k₁ n).1 h₁
  obtain ⟨r₂, hr₂, hn⟩ := (hi.keys k₂ r₁.name).1 h₂
  have hnd := hw.2
  rw [values_eq_map_snd, List.map_map] at hnd
  exact (Prod.mk.inj (List.inj_on_of_nodup_map hnd hr₁ hr₂ hn.symm)).1

/-- The graph lists the roles of its document, each once. -/
theorem Indexes.list_perm : g.list.Perm d.roles.values := by
  have hnd : g.list.Nodup := by
    have := Std.TreeMap.nodup_keys (t := g.roles)
    rw [← names, hi.names_eq] at this
    exact List.Nodup.of_map _ this
  refine (List.perm_ext_iff_of_nodup hnd (List.Nodup.of_map _ hw.2)).2 fun r => ?_
  rw [list]
  constructor
  · intro hr
    obtain ⟨n, hn⟩ := mem_values_iff.1 hr
    rw [← Std.TreeMap.get?_eq_getElem?] at hn
    have hm := ((hi.roles n r).1 hn).1
    rwa [← values_eq_map_snd] at hm
  · intro hr
    refine mem_values_iff.2 ⟨r.name, ?_⟩
    rw [← Std.TreeMap.get?_eq_getElem?]
    exact (hi.roles r.name r).2 ⟨by rwa [← values_eq_map_snd], rfl⟩

end Indexed

/-- Role names are kept in order. -/
theorem names_sorted (g : Graph) : g.names.Pairwise (· < ·) :=
  Std.TreeMap.ordered_keys.imp string_lt_of_compare

-- ============================================================ loading

theorem load_eq_ok_iff {d : Document} : load d = .ok g ↔ index d = .ok g ∧ g.findCycle = none := by
  unfold load
  cases index d with
  | error e => simp [bind, Except.bind]
  | ok g₁ =>
    simp only [bind, Except.bind, Except.ok.injEq]
    constructor
    · intro h
      cases hc : g₁.findCycle with
      | none =>
        rw [hc] at h
        cases h
        exact ⟨rfl, hc⟩
      | some c =>
        rw [hc] at h
        cases h
    · rintro ⟨rfl, hc⟩
      rw [hc]

theorem load_eq_cycle_iff {d : Document} {c : String} :
    load d = .error (.config ("角色继承存在循环: " ++ c)) ↔
      ∃ g, index d = .ok g ∧ g.findCycle = some c := by
  unfold load
  cases hx : index d with
  | error e =>
    simp only [bind, Except.bind, Except.error.injEq, reduceCtorEq, false_and, exists_false,
      iff_false]
    exact index_error_ne_cycle hx c
  | ok g₁ =>
    simp only [bind, Except.bind, Except.ok.injEq, exists_eq_left']
    cases hc : g₁.findCycle with
    | none => simp
    | some c' => simp [eq_comm]

/-- A role document loads exactly when every role is named, no two roles
    share a name, and inheritance among the roles is acyclic. A loaded graph
    lists the document's roles sorted by name, finds each by its name, and
    sends each key of the document to its role's name, one key per name. A
    refused cycle is spelled as a cycle of the document, and it is the one
    that the depth-first search over the names in order meets first. -/
theorem load_accepts_named_acyclic (d : Document) :
    ((∃ g, load d = .ok g) ↔
        (∀ r ∈ d.roles.values, r.name ≠ "") ∧ (d.roles.values.map Role.name).Nodup ∧
          Acyclic d.Named) ∧
    (∀ g, load d = .ok g →
        g.list.Perm d.roles.values ∧ g.names = g.list.map Role.name ∧
          g.names.Pairwise (· < ·) ∧ (∀ n r, g.role? n = some r ↔ d.Named n r) ∧
          (∀ k, g.nameForKey? k = d.roles[k]?.map Role.name) ∧
          (∀ n, n ∈ g.names ↔ ∃ k, g.nameForKey? k = some n) ∧
          (∀ k₁ k₂ n, g.nameForKey? k₁ = some n → g.nameForKey? k₂ = some n → k₁ = k₂)) ∧
    (∀ c, load d = .error (.config ("角色继承存在循环: " ++ c)) →
        ∃ cs, c = " -> ".intercalate cs ∧ IsCycle d.Named cs) ∧
    (∀ g, index d = .ok g → g.names.Pairwise (· < ·) ∧
        ∀ c, load d = .error (.config ("角色继承存在循环: " ++ c)) ↔
          Search g [] [] g.names (.error c)) := by
  refine ⟨⟨?_, ?_⟩, ?_, ?_, ?_⟩
  · rintro ⟨g, hg⟩
    obtain ⟨hx, hc⟩ := load_eq_ok_iff.1 hg
    obtain ⟨hw, hi⟩ := index_eq_ok hx
    exact ⟨hw.1, hw.2, hi.named_eq ▸ (findCycle_eq_none_iff g).1 hc⟩
  · rintro ⟨hn, hd, ha⟩
    obtain ⟨g, hx⟩ := index_ok_of_wellNamed ⟨hn, hd⟩
    have hi := (index_eq_ok hx).2
    exact ⟨g, load_eq_ok_iff.2 ⟨hx, (findCycle_eq_none_iff g).2 (hi.named_eq ▸ ha)⟩⟩
  · intro g hg
    obtain ⟨hw, hi⟩ := index_eq_ok (load_eq_ok_iff.1 hg).1
    exact ⟨hi.list_perm hw, hi.names_eq, names_sorted g,
      fun n r => by rw [← hi.named_eq]; rfl, hi.nameForKey?_eq, hi.mem_names_iff,
      fun _ _ _ => hi.nameForKey?_inj hw⟩
  · intro c hc
    obtain ⟨g, hx, hf⟩ := load_eq_cycle_iff.1 hc
    rw [← (index_eq_ok hx).2.named_eq]
    exact isCycle_of_findCycle hf
  · intro g hx
    refine ⟨names_sorted g, fun c => ?_⟩
    rw [load_eq_cycle_iff, ← findCycle_eq_some_iff]
    constructor
    · rintro ⟨g', hx', hf⟩
      rw [hx] at hx'
      cases hx'
      exact hf
    · exact fun hf => ⟨g, hx, hf⟩

/-- Two roles that inherit from each other are refused, and the refusal
    spells the cycle `a -> b -> a`. -/
theorem mutual_inheritance_refused :
    load ⟨((∅ : Std.TreeMap String Role).insert "a" ⟨"a", "", [], ["b"]⟩).insert "b"
        ⟨"b", "", [], ["a"]⟩⟩ = .error (.config ("角色继承存在循环: " ++ "a -> b -> a")) ∧
      ∃ cs, "a -> b -> a" = " -> ".intercalate cs ∧
        IsCycle (Document.Named ⟨((∅ : Std.TreeMap String Role).insert "a"
          ⟨"a", "", [], ["b"]⟩).insert "b" ⟨"b", "", [], ["a"]⟩⟩) cs := by
  have h : load ⟨((∅ : Std.TreeMap String Role).insert "a" ⟨"a", "", [], ["b"]⟩).insert "b"
      ⟨"b", "", [], ["a"]⟩⟩ = .error (.config ("角色继承存在循环: " ++ "a -> b -> a")) := by rfl
  exact ⟨h, (load_accepts_named_acyclic _).2.2.1 _ h⟩

end Graph

end Warden.Rbac
