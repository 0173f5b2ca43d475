import Mathlib.Data.List.Nodup
import Warden.Service.Lock
/-!
# Runs of the write lock

What one step of a task can do is said once (`Took`, `took_of_step`), and
each invariant is proved once per kind of step and then carried along every
interleaving (`run_preserves`).

- `Sound`: a task that waits for or holds a partition refers to the mutex an
  acquire of that partition finds now (`Current`), and no two tasks hold one
  mutex (`Exclusive`: the mutex's own promise, which the `lock` step takes
  as its guard). `Current` survives the sweep because an entry goes only
  when the map's reference is the last one, so no task refers to it. Hence
  two tasks never hold one partition, even across the removal and the
  re-creation of its entry, and under the global lock no two tasks hold
  anything at once.
- `WellMapped`: the entries name distinct mutexes drawn from the counter,
  and the global lock has none. With `Sound`, an entry of a partition that
  no task is at is referenced by the map alone (`refs_eq_one_of_vacant`).
- `Occupied`: every entry's partition has a task at it. Every step but
  `cancel` keeps it: a sweep that finds another reference finds a task at
  the same partition. A cancelled waiter drops its reference with no sweep
  of its own, and when the sweep before it counted that reference the entry
  outlives every task at it (`cancelled_waiter_leaves_entry`).
-/

namespace Warden.Service

open Warden.Config (LockMode)

namespace LockStage

theorem partition?_of_mutex? {s : LockStage} {m : Nat} (h : s.mutex? = some m) :
    ∃ p, s.partition? = some p := by
  cases s with
  | waiting p _ => exact ⟨p, rfl⟩
  | holding p _ => exact ⟨p, rfl⟩
  | idle => cases h
  | releasing _ => cases h

end LockStage

namespace WriteLock

variable {l l' : WriteLock} {t u : Nat} {s s' : LockStage} {p q : String} {m : Nat}

-- ============================================================ frames

@[simp] theorem setStage_mode : (l.setStage t s).mode = l.mode := rfl
@[simp] theorem setStage_entries : (l.setStage t s).entries = l.entries := rfl
@[simp] theorem mutexFor_setStage : (l.setStage t s).mutexFor q = l.mutexFor q := rfl
@[simp] theorem addEntry_mode : (l.addEntry p).mode = l.mode := rfl
@[simp] theorem addEntry_tasks : (l.addEntry p).tasks = l.tasks := rfl
@[simp] theorem forget_mode : (l.forget p).mode = l.mode := rfl
@[simp] theorem forget_tasks : (l.forget p).tasks = l.tasks := rfl

/-- A sweep leaves the map alone, or forgets an entry whose mutex the map
    alone refers to. -/
theorem sweep_cases (l : WriteLock) (p : String) :
    ((∀ m, l.entries.lookup p = some m → l.refs m ≠ 1) ∧ l.sweep p = l) ∨
      ∃ m, l.entries.lookup p = some m ∧ l.refs m = 1 ∧ l.sweep p = l.forget p := by
  unfold sweep
  split
  · rename_i m hp
    by_cases h : l.refs m = 1
    · exact .inr ⟨m, hp, h, if_pos h⟩
    · refine .inl ⟨fun m' hp' => ?_, if_neg h⟩
      rw [hp, Option.some.injEq] at hp'
      rwa [← hp']
  · rename_i hp
    exact .inl ⟨fun m' hp' => absurd hp' (by rw [hp]; simp), rfl⟩

@[simp] theorem sweep_mode : (l.sweep p).mode = l.mode := by
  rcases sweep_cases l p with ⟨-, h⟩ | ⟨_, _, _, h⟩ <;> rw [h]
  rfl

@[simp] theorem sweep_tasks : (l.sweep p).tasks = l.tasks := by
  rcases sweep_cases l p with ⟨-, h⟩ | ⟨_, _, _, h⟩ <;> rw [h]
  rfl

/-- After task `t` moves to `s`, a task is at `s` if it is `t`, and where it
    was otherwise. -/
theorem getElem?_setStage (h : (l.setStage t s).tasks[u]? = some s') :
    (u = t ∧ s' = s) ∨ (u ≠ t ∧ l.tasks[u]? = some s') := by
  simp only [setStage, List.getElem?_set] at h
  split at h
  · rename_i htu
    split at h
    · exact .inl ⟨htu.symm, (Option.some.inj h).symm⟩
    · cases h
  · rename_i htu
    exact .inr ⟨fun hut => htu hut.symm, h⟩

theorem getElem?_setStage_self (ht : l.tasks[t]? = some s) :
    (l.setStage t s').tasks[t]? = some s' := by
  have hlt : t < l.tasks.length := (List.getElem?_eq_some_iff.1 ht).1
  simp [setStage, hlt]

theorem getElem?_setStage_ne (h : u ≠ t) : (l.setStage t s).tasks[u]? = l.tasks[u]? := by
  simp [setStage, Ne.symm h]

-- ============================================================ the map

theorem mem_of_lookup {es : List (String × Nat)} (h : es.lookup p = some m) : (p, m) ∈ es := by
  obtain ⟨l₁, l₂, rfl, -⟩ := List.lookup_eq_some_iff.1 h
  simp

theorem lookup_filter_ne (es : List (String × Nat)) (h : q ≠ p) :
    (es.filter (·.1 != p)).lookup q = es.lookup q := by
  induction es with
  | nil => rfl
  | cons e es ih =>
    obtain ⟨k, v⟩ := e
    by_cases hk : k = p
    · -- the entry of `p` is dropped, and `q` is not `p`
      subst hk
      have hqk : (q == k) = false := by simpa using h
      simp [List.lookup_cons, hqk, ih]
    · simp [hk, List.lookup_cons, ih]

theorem lookup_filter_self (es : List (String × Nat)) :
    (es.filter (·.1 != p)).lookup p = none := by
  induction es with
  | nil => rfl
  | cons e es ih =>
    obtain ⟨k, v⟩ := e
    by_cases hk : k = p
    · simp [hk, ih]
    · have hpk : (p == k) = false := by simpa using Ne.symm hk
      simp [hk, List.lookup_cons, hpk, ih]

theorem mutexFor_addEntry_of_some (h : l.mutexFor q = some m) :
    (l.addEntry p).mutexFor q = some m := by
  unfold mutexFor at h ⊢
  rw [addEntry_mode]
  split at h
  · exact h
  · simp [addEntry, List.lookup_append, h]

theorem mutexFor_addEntry_self (h : l.mutexFor p = none) :
    (l.addEntry p).mutexFor p = some l.fresh := by
  unfold mutexFor at h ⊢
  rw [addEntry_mode]
  split at h
  · cases h
  · simp [addEntry, List.lookup_append, h]

theorem mutexFor_forget_ne (h : q ≠ p) : (l.forget p).mutexFor q = l.mutexFor q := by
  unfold mutexFor
  rw [forget_mode]
  split
  · rfl
  · exact lookup_filter_ne l.entries h

theorem mutexFor_of_global (h : l.mode = .global) : l.mutexFor p = some globalMutex := by
  simp [mutexFor, h]

theorem mutexFor_of_perSubject (h : l.mode = .perSubject) : l.mutexFor p = l.entries.lookup p := by
  simp [mutexFor, h]

/-- A mutex entered in the map that some task refers to has two references
    at least. -/
theorem refs_ge_two (hp : l.entries.lookup p = some m) (hu : l.tasks[u]? = some s)
    (hm : s.mutex? = some m) : 2 ≤ l.refs m := by
  have he : 0 < l.entries.countP (·.2 == m) :=
    List.countP_pos_iff.2 ⟨(p, m), mem_of_lookup hp, by simp⟩
  have ht : 0 < l.tasks.countP (·.mutex? == some m) :=
    List.countP_pos_iff.2 ⟨s, List.mem_of_getElem? hu, by simp [hm]⟩
  unfold refs
  omega

-- ============================================================ steps

/-- What one step of task `t` can do, with the stage it starts from. -/
inductive Took (l : WriteLock) (t : Nat) : LockMove → WriteLock → Prop where
  | acquire {p : String} : l.tasks[t]? = some .idle → Took l t (.acquire p) (l.enter t p)
  | lock {p : String} {m : Nat} : l.tasks[t]? = some (.waiting p m) → l.locked m = false →
      Took l t .lock (l.setStage t (.holding p m))
  | cancel {p : String} {m : Nat} : l.tasks[t]? = some (.waiting p m) →
      Took l t .cancel (l.setStage t .idle)
  | release {p : String} {m : Nat} : l.tasks[t]? = some (.holding p m) →
      Took l t .release (l.setStage t (l.afterRelease p))
  | sweep {p : String} : l.tasks[t]? = some (.releasing p) →
      Took l t .sweep ((l.sweep p).setStage t .idle)

theorem took_of_step {mv : LockMove} (h : l.step t mv = some l') : Took l t mv l' := by
  cases mv with
  | acquire p =>
    simp only [step] at h
    split at h
    · cases h
      exact .acquire ‹_›
    · cases h
  | lock =>
    simp only [step] at h
    split at h
    · rename_i p m hs
      split at h
      · cases h
      · cases h
        exact .lock hs (Bool.eq_false_iff.2 ‹_›)
    · cases h
  | cancel =>
    simp only [step] at h
    split at h
    · cases h
      exact .cancel ‹_›
    · cases h
  | release =>
    simp only [step] at h
    split at h
    · cases h
      exact .release ‹_›
    · cases h
  | sweep =>
    simp only [step] at h
    split at h
    · cases h
      exact .sweep ‹_›
    · cases h

/-- What every allowed step keeps holds after every run of allowed steps. -/
theorem run_preserves (P : WriteLock → Prop) (allowed : LockMove → Prop)
    (hstep : ∀ l t mv l', allowed mv → P l → Took l t mv l' → P l') :
    ∀ (moves : List (Nat × LockMove)) (l l' : WriteLock), (∀ e ∈ moves, allowed e.2) →
      P l → l.run moves = some l' → P l' := by
  intro moves
  induction moves with
  | nil =>
    intro l l' _ hl h
    cases h
    exact hl
  | cons e es ih =>
    intro l l' ha hl h
    simp only [run, List.foldlM_cons] at h
    obtain ⟨l₁, h₁, h₂⟩ := Option.bind_eq_some_iff.1 h
    have hl₁ : P l₁ := hstep l e.1 e.2 l₁ (ha e List.mem_cons_self) hl (took_of_step h₁)
    exact ih l₁ l' (fun e' he' => ha e' (List.mem_cons_of_mem e he')) hl₁ h₂

-- ============================================================ mutual exclusion

/-- A task that waits for or holds a partition refers to the mutex that an
    acquire of the partition finds now. -/
def Current (l : WriteLock) : Prop :=
  ∀ (t : Nat) (s : LockStage) (p : String) (m : Nat), l.tasks[t]? = some s →
    s.partition? = some p → s.mutex? = some m → l.mutexFor p = some m

/-- No two tasks hold one mutex. -/
def Exclusive (l : WriteLock) : Prop :=
  ∀ (t u m : Nat) (s s' : LockStage), l.tasks[t]? = some s → l.tasks[u]? = some s' →
    s.holds m = true → s'.holds m = true → t = u

/-- The invariant of mutual exclusion. -/
structure Sound (l : WriteLock) : Prop where
  current : l.Current
  exclusive : l.Exclusive

theorem Current.setStage (h : l.Current)
    (hs : ∀ p m, s.partition? = some p → s.mutex? = some m → l.mutexFor p = some m) :
    (l.setStage t s).Current := by
  intro u s' p m hu hp hm
  rw [mutexFor_setStage]
  rcases getElem?_setStage hu with ⟨-, rfl⟩ | ⟨-, hu'⟩
  · exact hs p m hp hm
  · exact h u s' p m hu' hp hm

/-- A task that moves to partition `p` and mutex `m`, the mutex an acquire of
    `p` finds, keeps every task current. -/
theorem Current.setStage_at (h : l.Current) (hp : s.partition? = some p) (hm : s.mutex? = some m)
    (hf : l.mutexFor p = some m) : (l.setStage t s).Current := by
  apply h.setStage
  intro q m' hq hm'
  rw [hp, Option.some.injEq] at hq
  rw [hm, Option.some.injEq] at hm'
  rw [← hq, ← hm']
  exact hf

theorem Current.addEntry (h : l.Current) : (l.addEntry p).Current :=
  fun u s q m hu hq hm => mutexFor_addEntry_of_some (h u s q m hu hq hm)

/-- The sweep forgets an entry only when no task refers to its mutex, so
    every task still finds the mutex it refers to. -/
theorem Current.sweep (h : l.Current) : (l.sweep p).Current := by
  rcases sweep_cases l p with ⟨-, hs⟩ | ⟨m, hp, hone, hs⟩
  · rw [hs]
    exact h
  rw [hs]
  intro u s q m' hu hq hm'
  rw [forget_tasks] at hu
  have hcur := h u s q m' hu hq hm'
  by_cases hqp : q = p
  · subst hqp
    cases hmode : l.mode with
    | global =>
      -- the global lock does not read the map
      rw [mutexFor_of_global hmode] at hcur
      rwa [mutexFor_of_global (by rw [forget_mode, hmode])]
    | perSubject =>
      -- a task at `q` refers to the mutex the map gives `q`: a second reference
      rw [mutexFor_of_perSubject hmode, hp] at hcur
      cases hcur
      have := refs_ge_two hp hu hm'
      omega
  · rwa [mutexFor_forget_ne hqp]

theorem Exclusive.setStage (h : l.Exclusive) (hs : ∀ m, s.holds m = false) :
    (l.setStage t s).Exclusive := by
  intro u v m s₁ s₂ hu hv h₁ h₂
  rcases getElem?_setStage hu with ⟨-, rfl⟩ | ⟨-, hu'⟩
  · rw [hs] at h₁
    cases h₁
  rcases getElem?_setStage hv with ⟨-, rfl⟩ | ⟨-, hv'⟩
  · rw [hs] at h₂
    cases h₂
  exact h u v m s₁ s₂ hu' hv' h₁ h₂

/-- A task takes a mutex that no task holds: it holds it alone. -/
theorem Exclusive.lock (h : l.Exclusive) (hm : l.locked m = false) :
    (l.setStage t (.holding p m)).Exclusive := by
  have hfree : ∀ (u : Nat) (s : LockStage), l.tasks[u]? = some s → s.holds m = false := by
    intro u s hu
    have hall := List.any_eq_false.1 hm s (List.mem_of_getElem? hu)
    simpa using hall
  -- the new holder holds `m` and nothing else
  have hnew : ∀ m', (LockStage.holding p m).holds m' = true → m' = m := by
    intro m' h'
    simp only [LockStage.holds, beq_iff_eq] at h'
    exact h'.symm
  intro u v m' s₁ s₂ hu hv h₁ h₂
  rcases getElem?_setStage hu with ⟨rfl, rfl⟩ | ⟨hut, hu'⟩ <;>
    rcases getElem?_setStage hv with ⟨rfl, rfl⟩ | ⟨hvt, hv'⟩
  · rfl
  · obtain rfl := hnew m' h₁
    rw [hfree v s₂ hv'] at h₂
    cases h₂
  · obtain rfl := hnew m' h₂
    rw [hfree u s₁ hu'] at h₁
    cases h₁
  · exact h u v m' s₁ s₂ hu' hv' h₁ h₂

theorem Sound.setStage (h : l.Sound) (hs : s.mutex? = none) : (l.setStage t s).Sound := by
  refine ⟨h.current.setStage fun _ _ _ hm => ?_, h.exclusive.setStage fun m => ?_⟩
  · rw [hs] at hm
    cases hm
  · cases s <;> simp_all [LockStage.mutex?, LockStage.holds]

theorem Sound.enter (h : l.Sound) : (l.enter t p).Sound := by
  unfold WriteLock.enter
  split
  · rename_i m hm
    exact ⟨h.current.setStage_at rfl rfl hm, h.exclusive.setStage fun _ => rfl⟩
  · rename_i hnone
    refine ⟨h.current.addEntry.setStage_at rfl rfl (mutexFor_addEntry_self hnone), ?_⟩
    exact (show (l.addEntry p).Exclusive from h.exclusive).setStage fun _ => rfl

theorem Sound.took {mv : LockMove} (h : l.Sound) (ht : Took l t mv l') : l'.Sound := by
  cases ht with
  | acquire _ => exact h.enter
  | lock hs hm =>
    exact ⟨h.current.setStage_at rfl rfl (h.current t _ _ _ hs rfl rfl), h.exclusive.lock hm⟩
  | cancel _ => exact h.setStage rfl
  | release _ =>
    apply h.setStage
    unfold afterRelease
    split <;> rfl
  | @sweep p _ =>
    have hsw : (l.sweep p).Sound := ⟨h.current.sweep, fun u v m s₁ s₂ hu hv =>
      h.exclusive u v m s₁ s₂ (by rwa [sweep_tasks] at hu) (by rwa [sweep_tasks] at hv)⟩
    exact hsw.setStage rfl

theorem sound_start (mode : LockMode) (n : Nat) : (start mode n).Sound := by
  have hidle : ∀ (t : Nat) (s : LockStage), (start mode n).tasks[t]? = some s → s = .idle := by
    intro t s ht
    simp only [start, List.getElem?_replicate] at ht
    split at ht
    · exact (Option.some.inj ht).symm
    · cases ht
  refine ⟨fun t s p m ht hp _ => ?_, fun t u m s s' ht _ h₁ _ => ?_⟩
  · rw [hidle t s ht] at hp
    cases hp
  · rw [hidle t s ht] at h₁
    cases h₁

/-- Two tasks that hold one mutex are one task. -/
theorem Exclusive.holding_eq (h : l.Exclusive) {p₁ p₂ : String}
    (ht : l.tasks[t]? = some (.holding p₁ m)) (hu : l.tasks[u]? = some (.holding p₂ m)) : t = u :=
  h t u m _ _ ht hu (by simp [LockStage.holds]) (by simp [LockStage.holds])

/-- Two tasks that hold the same partition are one task. -/
theorem Sound.partition_held_once (h : l.Sound) {m₁ m₂ : Nat}
    (ht : l.tasks[t]? = some (.holding p m₁)) (hu : l.tasks[u]? = some (.holding p m₂)) : t = u := by
  have h₁ := h.current t _ p m₁ ht rfl rfl
  have h₂ := h.current u _ p m₂ hu rfl rfl
  rw [h₁, Option.some.injEq] at h₂
  subst h₂
  exact h.exclusive.holding_eq ht hu

/-- Under the global lock two tasks that hold anything are one task. -/
theorem Sound.held_once_of_global (h : l.Sound) (hg : l.mode = .global) {p₁ p₂ : String}
    {m₁ m₂ : Nat} (ht : l.tasks[t]? = some (.holding p₁ m₁)) (hu : l.tasks[u]? = some (.holding p₂ m₂)) :
    t = u := by
  have h₁ := h.current t _ p₁ m₁ ht rfl rfl
  have h₂ := h.current u _ p₂ m₂ hu rfl rfl
  rw [mutexFor_of_global hg, Option.some.injEq] at h₁ h₂
  subst h₁ h₂
  exact h.exclusive.holding_eq ht hu

theorem Took.mode_eq {mv : LockMove} (ht : Took l t mv l') : l'.mode = l.mode := by
  cases ht with
  | acquire _ =>
    unfold WriteLock.enter
    split <;> rfl
  | lock _ _ => rfl
  | cancel _ => rfl
  | release _ => rfl
  | sweep _ => exact sweep_mode

theorem mode_run {mode : LockMode} {n : Nat} {moves : List (Nat × LockMove)}
    (h : (start mode n).run moves = some l) : l.mode = mode :=
  run_preserves (·.mode = mode) (fun _ => True) (fun _ _ _ _ _ hl ht => ht.mode_eq.trans hl)
    moves _ l (fun _ _ => trivial) rfl h

-- ============================================================ the map's entries

/-- The map's entries name distinct mutexes drawn from the counter, and the
    global lock keeps none. -/
structure WellMapped (l : WriteLock) : Prop where
  distinct : (l.entries.map Prod.snd).Nodup
  drawn : ∀ e ∈ l.entries, e.2 < l.fresh
  global : l.mode = .global → l.entries = []

theorem WellMapped.setStage (h : l.WellMapped) : (l.setStage t s).WellMapped :=
  ⟨h.distinct, h.drawn, h.global⟩

theorem WellMapped.addEntry (h : l.WellMapped) (hnone : l.mutexFor p = none) :
    (l.addEntry p).WellMapped := by
  have hmode : l.mode = .perSubject := by
    unfold mutexFor at hnone
    split at hnone
    · cases hnone
    · assumption
  refine ⟨?_, fun e he => ?_, fun hg => absurd (hmode.symm.trans hg) (by decide)⟩
  · -- the new mutex lies beyond every mutex of the map
    simp only [WriteLock.addEntry, List.map_append, List.map_cons, List.map_nil]
    refine List.nodup_append.2 ⟨h.distinct, List.nodup_singleton _, fun a ha b hb => ?_⟩
    rw [List.mem_singleton] at hb
    obtain ⟨e, he, rfl⟩ := List.mem_map.1 ha
    exact hb ▸ Nat.ne_of_lt (h.drawn e he)
  · rcases List.mem_append.1 he with he | he
    · exact Nat.lt_succ_of_lt (h.drawn e he)
    · rw [List.mem_singleton] at he
      subst he
      exact Nat.lt_succ_self _

theorem WellMapped.forget (h : l.WellMapped) : (l.forget p).WellMapped := by
  refine ⟨h.distinct.sublist (List.filter_sublist.map _), fun e he => h.drawn e (List.mem_filter.1 he).1,
    fun hg => ?_⟩
  show l.entries.filter _ = []
  rw [h.global hg]
  rfl

theorem WellMapped.sweep (h : l.WellMapped) : (l.sweep p).WellMapped := by
  rcases sweep_cases l p with ⟨-, hs⟩ | ⟨m, -, -, hs⟩ <;> rw [hs]
  · exact h
  · exact h.forget

theorem WellMapped.took {mv : LockMove} (h : l.WellMapped) (ht : Took l t mv l') : l'.WellMapped := by
  cases ht with
  | acquire _ =>
    unfold WriteLock.enter
    split
    · exact h.setStage
    · exact (h.addEntry ‹_›).setStage
  | lock _ _ => exact h.setStage
  | cancel _ => exact h.setStage
  | release _ => exact h.setStage
  | sweep _ => exact h.sweep.setStage

theorem wellMapped_start (mode : LockMode) (n : Nat) : (start mode n).WellMapped :=
  ⟨List.nodup_nil, fun _ he => absurd he List.not_mem_nil, fun _ => rfl⟩

theorem WellMapped.perSubject_of_lookup (h : l.WellMapped) (hp : l.entries.lookup p = some m) :
    l.mode = .perSubject := by
  cases hmode : l.mode with
  | global =>
    rw [h.global hmode] at hp
    cases hp
  | perSubject => rfl

/-- Two partitions whose entries name one mutex are one partition. -/
theorem WellMapped.key_eq (h : l.WellMapped) (hq : l.entries.lookup q = some m)
    (hp : l.entries.lookup p = some m) : q = p :=
  (Prod.mk.inj (List.inj_on_of_nodup_map h.distinct (mem_of_lookup hq) (mem_of_lookup hp) rfl)).1

/-- A task that refers to the mutex of `p`'s entry is at `p`. -/
theorem partition?_of_refers (hs : l.Current) (hw : l.WellMapped) (hp : l.entries.lookup p = some m)
    (hu : l.tasks[u]? = some s) (hm : s.mutex? = some m) : s.partition? = some p := by
  obtain ⟨q, hq⟩ := LockStage.partition?_of_mutex? hm
  have hcur := hs u s q m hu hq hm
  rw [mutexFor_of_perSubject (hw.perSubject_of_lookup hp)] at hcur
  rw [hq, hw.key_eq hcur hp]

/-- The references to the mutex of an entry: the map's one and the tasks'. -/
theorem refs_of_lookup (hw : l.WellMapped) (hp : l.entries.lookup p = some m) :
    l.refs m = 1 + l.tasks.countP (·.mutex? == some m) := by
  have hm : m ∈ l.entries.map Prod.snd := List.mem_map.2 ⟨(p, m), mem_of_lookup hp, rfl⟩
  have hone := List.count_eq_one_of_mem hw.distinct hm
  rw [List.count, List.countP_map] at hone
  unfold refs
  rw [← hone]
  rfl

/-- A reference to the mutex of an entry besides the map's own is a task at
    the entry's partition. -/
theorem exists_referrer (hs : l.Current) (hw : l.WellMapped) (hp : l.entries.lookup p = some m)
    (hr : l.refs m ≠ 1) :
    ∃ (u : Nat) (s : LockStage), l.tasks[u]? = some s ∧ s.mutex? = some m ∧
      s.partition? = some p := by
  have hpos : 0 < l.tasks.countP (·.mutex? == some m) := by
    have := refs_of_lookup hw hp
    omega
  obtain ⟨s, hs', hm⟩ := List.countP_pos_iff.1 hpos
  obtain ⟨u, hu⟩ := List.mem_iff_getElem?.1 hs'
  have hm' : s.mutex? = some m := by simpa using hm
  exact ⟨u, s, hu, hm', partition?_of_refers hs hw hp hu hm'⟩

/-- The entry of a partition that no task is at is referenced by the map
    alone. -/
theorem refs_eq_one_of_vacant (hs : l.Sound) (hw : l.WellMapped) (hp : l.entries.lookup p = some m)
    (hv : ∀ (t : Nat) (s : LockStage), l.tasks[t]? = some s → s.partition? ≠ some p) :
    l.refs m = 1 := by
  by_cases hr : l.refs m = 1
  · exact hr
  · obtain ⟨u, s, hu, -, hps⟩ := exists_referrer hs.current hw hp hr
    exact absurd hps (hv u s hu)

/-- What the map holds once `p` is forgotten: the entries of the other
    partitions. -/
theorem lookup_forget (hq : (l.forget p).entries.lookup q = some m) :
    q ≠ p ∧ l.entries.lookup q = some m := by
  have hqp : q ≠ p := by
    rintro rfl
    rw [show (l.forget q).entries = l.entries.filter (·.1 != q) from rfl,
      lookup_filter_self] at hq
    cases hq
  exact ⟨hqp, by rw [← lookup_filter_ne l.entries hqp]; exact hq⟩

-- ============================================================ occupied entries

/-- Every entry of the map is for a partition that some task is at. -/
def Occupied (l : WriteLock) : Prop :=
  ∀ (p : String) (m : Nat), l.entries.lookup p = some m →
    ∃ (t : Nat) (s : LockStage), l.tasks[t]? = some s ∧ s.partition? = some p

/-- Entries whose partitions have tasks at them other than `t` stay
    occupied whatever `t` does. -/
theorem occupied_setStage
    (h : ∀ (p : String) (m : Nat), l.entries.lookup p = some m →
      ∃ (u : Nat) (s : LockStage), u ≠ t ∧ l.tasks[u]? = some s ∧ s.partition? = some p) :
    (l.setStage t s).Occupied := by
  intro p m hp
  obtain ⟨u, s', hut, hu, hpu⟩ := h p m hp
  exact ⟨u, s', by rw [getElem?_setStage_ne hut]; exact hu, hpu⟩

/-- A task at a stage off `p` is not the one at `p`. -/
theorem ne_of_partition? (ht : l.tasks[t]? = some s) (hu : l.tasks[u]? = some s')
    (hp : s'.partition? = some p) (hs : s.partition? ≠ some p) : u ≠ t := by
  rintro rfl
  rw [ht, Option.some.injEq] at hu
  subst hu
  exact hs hp

/-- A task that stays at its partition keeps its entries occupied. -/
theorem Occupied.setStage_same (h : l.Occupied) (ht : l.tasks[t]? = some s)
    (hs : s'.partition? = s.partition?) : (l.setStage t s').Occupied := by
  intro p m hp
  obtain ⟨u, s₁, hu, hpu⟩ := h p m hp
  by_cases hut : u = t
  · subst hut
    rw [ht, Option.some.injEq] at hu
    subst hu
    exact ⟨u, s', getElem?_setStage_self ht, hs.trans hpu⟩
  · exact ⟨u, s₁, by rw [getElem?_setStage_ne hut]; exact hu, hpu⟩

theorem Occupied.enter (h : l.Occupied) (ht : l.tasks[t]? = some .idle) :
    (l.enter t p).Occupied := by
  -- the idle task is no entry's witness
  have hother : ∀ q m, l.entries.lookup q = some m →
      ∃ (u : Nat) (s : LockStage), u ≠ t ∧ l.tasks[u]? = some s ∧ s.partition? = some q := by
    intro q m hq
    obtain ⟨u, s, hu, hpu⟩ := h q m hq
    exact ⟨u, s, ne_of_partition? ht hu hpu (by simp [LockStage.partition?]), hu, hpu⟩
  unfold WriteLock.enter
  split
  · exact occupied_setStage hother
  · intro q m hq
    by_cases hqp : q = p
    · -- the new entry's witness is the task that made it
      subst hqp
      exact ⟨t, _, getElem?_setStage_self ht, rfl⟩
    · have hq' : l.entries.lookup q = some m := by
        have hqp' : (q == p) = false := by simpa using hqp
        simpa [WriteLock.addEntry, List.lookup_append, List.lookup_cons, hqp'] using hq
      obtain ⟨u, s, hut, hu, hpu⟩ := hother q m hq'
      exact ⟨u, s, by rw [getElem?_setStage_ne hut]; exact hu, hpu⟩

/-- While task `t` releases `p`, an entry of another partition has a task
    at it other than `t`. -/
theorem Occupied.witness_ne (h : l.Occupied) (ht : l.tasks[t]? = some (.releasing p))
    (hq : l.entries.lookup q = some m) (hqp : q ≠ p) :
    ∃ (u : Nat) (s : LockStage), u ≠ t ∧ l.tasks[u]? = some s ∧ s.partition? = some q := by
  obtain ⟨u, s, hu, hpu⟩ := h q m hq
  have hne : (LockStage.releasing p).partition? ≠ some q := by
    simpa [LockStage.partition?] using Ne.symm hqp
  exact ⟨u, s, ne_of_partition? ht hu hpu hne, hu, hpu⟩

/-- A sweep that keeps an entry found a second reference to its mutex: a task
    at the same partition, other than the sweeping one. -/
theorem Occupied.sweep (h : l.Occupied) (hs : l.Sound) (hw : l.WellMapped)
    (ht : l.tasks[t]? = some (.releasing p)) : ((l.sweep p).setStage t .idle).Occupied := by
  rcases sweep_cases l p with ⟨hkeep, hsw⟩ | ⟨m, -, -, hsw⟩ <;> rw [hsw] <;>
    refine occupied_setStage fun q m' hq => ?_
  · by_cases hqp : q = p
    · subst hqp
      obtain ⟨u, s, hu, hm, hps⟩ := exists_referrer hs.current hw hq (hkeep m' hq)
      refine ⟨u, s, fun hut => ?_, hu, hps⟩
      -- the sweeping task refers to no mutex
      rw [hut, ht, Option.some.injEq] at hu
      rw [← hu] at hm
      cases hm
    · exact h.witness_ne ht hq hqp
  · -- the forgotten entry was `p`'s; the others keep their witnesses
    obtain ⟨hqp, hq'⟩ := lookup_forget hq
    exact h.witness_ne ht hq' hqp

/-- Every step but a cancelled acquire keeps the map's entries occupied. -/
theorem Occupied.took {mv : LockMove} (h : l.Occupied) (hs : l.Sound) (hw : l.WellMapped)
    (ht : Took l t mv l') (hmv : mv ≠ .cancel) : l'.Occupied := by
  cases ht with
  | acquire hi => exact h.enter hi
  | lock hi _ => exact h.setStage_same hi rfl
  | cancel _ => exact absurd rfl hmv
  | @release p _ hi =>
    unfold afterRelease
    split
    · -- the global lock keeps no entries
      rename_i hg
      intro q m hq
      rw [setStage_entries, hw.global hg] at hq
      cases hq
    · exact h.setStage_same hi rfl
  | sweep hi => exact h.sweep hs hw hi

/-- Every run keeps mutual exclusion and the map well formed, cancelled
    acquires included. -/
theorem sound_wellMapped_run {mode : LockMode} {n : Nat} {moves : List (Nat × LockMove)}
    (h : (start mode n).run moves = some l) : l.Sound ∧ l.WellMapped :=
  run_preserves (fun l => l.Sound ∧ l.WellMapped) (fun _ => True)
    (fun _ _ _ _ _ hl ht => ⟨hl.1.took ht, hl.2.took ht⟩) moves _ l (fun _ _ => trivial)
    ⟨sound_start mode n, wellMapped_start mode n⟩ h

/-- A run in which no pending acquire is cancelled leaves only entries that
    some task is at. -/
theorem occupied_run {mode : LockMode} {n : Nat} {moves : List (Nat × LockMove)}
    (hc : ∀ e ∈ moves, e.2 ≠ .cancel) (h : (start mode n).run moves = some l) : l.Occupied :=
  (run_preserves (fun l => l.Sound ∧ l.WellMapped ∧ l.Occupied) (· ≠ .cancel)
    (fun _ _ _ _ hmv hl ht => ⟨hl.1.took ht, hl.2.1.took ht, hl.2.2.took hl.1 hl.2.1 ht hmv⟩)
    moves _ l hc ⟨sound_start mode n, wellMapped_start mode n, fun _ _ hp => nomatch hp⟩ h).2.2

end WriteLock

open WriteLock

/-- The write lock over every interleaving of any number of tasks: two tasks
    never hold one partition at once, even across the sweep and the
    re-making of its entry, and under the global lock no two tasks hold
    anything at once; an entry of a partition that no task waits for,
    holds or is releasing is referenced by the map alone; and in a run with
    no cancelled acquire there is no such entry. -/
theorem write_lock_serialises_partitions (mode : LockMode) (n : Nat)
    (moves : List (Nat × LockMove)) (l : WriteLock) (h : (start mode n).run moves = some l) :
    (∀ (p : String) (t u m₁ m₂ : Nat), l.tasks[t]? = some (.holding p m₁) →
        l.tasks[u]? = some (.holding p m₂) → t = u) ∧
    (mode = .global → ∀ (t u : Nat) (p₁ p₂ : String) (m₁ m₂ : Nat),
        l.tasks[t]? = some (.holding p₁ m₁) → l.tasks[u]? = some (.holding p₂ m₂) → t = u) ∧
    (∀ (p : String) (m : Nat), l.entries.lookup p = some m →
        (∀ (t : Nat) (s : LockStage), l.tasks[t]? = some s → s.partition? ≠ some p) →
        l.refs m = 1) ∧
    ((∀ e ∈ moves, e.2 ≠ .cancel) → ∀ p : String,
        (∀ (t : Nat) (s : LockStage), l.tasks[t]? = some s → s.partition? ≠ some p) →
        l.entries.lookup p = none) := by
  obtain ⟨hs, hw⟩ := sound_wellMapped_run h
  refine ⟨fun p t u m₁ m₂ ht hu => hs.partition_held_once ht hu, fun hg t u p₁ p₂ m₁ m₂ ht hu =>
    hs.held_once_of_global ((mode_run h).trans hg) ht hu,
    fun p m hp hv => refs_eq_one_of_vacant hs hw hp hv, fun hc p hv => ?_⟩
  -- an entry of `p` would need a task at `p`
  cases hp : l.entries.lookup p with
  | none => rfl
  | some m =>
    obtain ⟨t, s, ht, hps⟩ := occupied_run hc h p m hp
    exact absurd hps (hv t s ht)

/-- Task 0 holds `p` while task 1 starts to wait for it; task 0 releases, and
    its sweep counts task 1's reference and keeps the entry; then task 1's
    pending acquire is cancelled. No task is at `p` any more, and the map
    still holds its entry, referenced by the map alone. -/
theorem cancelled_waiter_leaves_entry :
    (start .perSubject 2).run [(0, .acquire "p"), (0, .lock), (1, .acquire "p"), (0, .release),
        (0, .sweep), (1, .cancel)] =
      some ⟨.perSubject, [("p", 1)], 2, [.idle, .idle]⟩ := by
  decide

/-- After a cancelled waiter leaves an entry behind, the map's reference to
    its mutex is the only one. -/
theorem left_entry_referenced_by_map_alone :
    (start .perSubject 2).run [(0, .acquire "p"), (0, .lock), (1, .acquire "p"), (0, .release),
        (0, .sweep), (1, .cancel)] =
      some ⟨.perSubject, [("p", 1)], 2, [.idle, .idle]⟩ ∧
    WriteLock.refs ⟨.perSubject, [("p", 1)], 2, [.idle, .idle]⟩ 1 = 1 := by
  have h : (start .perSubject 2).run [(0, .acquire "p"), (0, .lock), (1, .acquire "p"),
      (0, .release), (0, .sweep), (1, .cancel)] = some ⟨.perSubject, [("p", 1)], 2, [.idle, .idle]⟩ := by
    decide
  refine ⟨h, (write_lock_serialises_partitions _ _ _ _ h).2.2.1 "p" 1 rfl fun t s ht => ?_⟩
  have hs : s ∈ [LockStage.idle, .idle] := List.mem_of_getElem? ht
  simp only [List.mem_cons, List.not_mem_nil, or_false, or_self] at hs
  subst hs
  simp [LockStage.partition?]

end Warden.Service
