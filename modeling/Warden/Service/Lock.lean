import Warden.Config.Basic
/-!
# The write lock

Issuance and revocation take a write guard before they touch the store, so
that two writes of one lineage never interleave; on that ground the rest of
the model runs each operation whole. Under `LockMode.global` one mutex
serialises every write. Under `LockMode.perSubject` each partition (a
subject, an authorization request, a code) has its own mutex, kept in a
shared map; the map's entry for a partition is meant to live only while
someone holds or waits for it.

Here the lock is written as the tasks that use it, each taking atomic
steps (`LockMove`), in any interleaving:

- `acquire p`: under the map's shard lock, the task takes a reference to
  the mutex of `p`, or makes one and enters it in the map; it then waits
  for that mutex.
- `lock`: a waiting task takes its mutex once no task holds it.
- `cancel`: the pending acquire of a waiting task is dropped, as a timeout
  around the write drops it, and its reference goes with it; nothing else
  runs.
- `release`: dropping the guard unlocks the mutex and drops the reference.
- `sweep`: then, under the shard lock, the entry of the partition goes if
  the map's reference to its mutex is the only one left.

A mutex is known by a number drawn fresh when it is made; its reference
count (`refs`) is the number of references the map and the tasks hold to
it.
-/

namespace Warden.Service

open Warden.Config (LockMode)

/-- Where a task stands with the write lock. -/
inductive LockStage where
  | idle
  | waiting (partition : String) (mutex : Nat)
  | holding (partition : String) (mutex : Nat)
  /-- The guard has unlocked its mutex; its entry is not yet swept. -/
  | releasing (partition : String)
  deriving DecidableEq, Repr

namespace LockStage

/-- The mutex a task keeps a reference to: the one it waits for or holds. -/
def mutex? : LockStage → Option Nat
  | waiting _ m | holding _ m => some m
  | _ => none

/-- The partition a task waits for, holds, or is releasing. -/
def partition? : LockStage → Option String
  | waiting p _ | holding p _ | releasing p => some p
  | idle => none

/-- Whether a task holds mutex `m`. -/
def holds (m : Nat) : LockStage → Bool
  | holding _ m' => m' == m
  | _ => false

end LockStage

/-- One atomic step of a task with the write lock. -/
inductive LockMove where
  | acquire (partition : String)
  | lock
  | cancel
  | release
  | sweep
  deriving DecidableEq, Repr

/-- A write lock and the tasks that use it. -/
structure WriteLock where
  mode : LockMode
  /-- The per-subject map from a partition to its mutex; empty under the
      global lock. -/
  entries : List (String × Nat)
  /-- The number the next mutex made is given. -/
  fresh : Nat
  tasks : List LockStage
  deriving DecidableEq, Repr

namespace WriteLock

/-- The one mutex of the global lock. -/
def globalMutex : Nat := 0

/-- A lock with `n` tasks, none of which has started a write. -/
def start (mode : LockMode) (n : Nat) : WriteLock :=
  { mode, entries := [], fresh := globalMutex + 1, tasks := List.replicate n .idle }

/-- The mutex an acquire of `p` finds, if there is one. -/
def mutexFor (l : WriteLock) (p : String) : Option Nat :=
  match l.mode with
  | .global => some globalMutex
  | .perSubject => l.entries.lookup p

/-- The references to mutex `m` that are alive: the map's and the tasks'. -/
def refs (l : WriteLock) (m : Nat) : Nat :=
  l.entries.countP (·.2 == m) + l.tasks.countP (·.mutex? == some m)

/-- Whether some task holds mutex `m`. -/
def locked (l : WriteLock) (m : Nat) : Bool := l.tasks.any (·.holds m)

/-- Task `t` moves to stage `s`. -/
def setStage (l : WriteLock) (t : Nat) (s : LockStage) : WriteLock :=
  { l with tasks := l.tasks.set t s }

/-- A new mutex for `p`, entered in the map. -/
def addEntry (l : WriteLock) (p : String) : WriteLock :=
  { l with entries := l.entries ++ [(p, l.fresh)], fresh := l.fresh + 1 }

/-- Task `t` acquires `p`: it takes a reference to the mutex of `p`, made
    and entered in the map if `p` has none, and waits for it. -/
def enter (l : WriteLock) (t : Nat) (p : String) : WriteLock :=
  match l.mutexFor p with
  | some m => l.setStage t (.waiting p m)
  | none => (l.addEntry p).setStage t (.waiting p l.fresh)

/-- What is left to do once a guard for `p` has unlocked its mutex: nothing
    under the global lock, the sweep of `p` under the per-subject lock. -/
def afterRelease (l : WriteLock) (p : String) : LockStage :=
  match l.mode with
  | .global => .idle
  | .perSubject => .releasing p

/-- The map without the entry of `p`. -/
def forget (l : WriteLock) (p : String) : WriteLock :=
  { l with entries := l.entries.filter (·.1 != p) }

/-- The entry of `p` goes if the map's reference to its mutex is the only
    one left. -/
def sweep (l : WriteLock) (p : String) : WriteLock :=
  match l.entries.lookup p with
  | some m => if l.refs m = 1 then l.forget p else l
  | none => l

/-- One atomic step of task `t`; none when the task is not at a stage
    where it can take that step. -/
def step (l : WriteLock) (t : Nat) : LockMove → Option WriteLock
  | .acquire p => if l.tasks[t]? = some .idle then some (l.enter t p) else none
  | .lock =>
    match l.tasks[t]? with
    | some (.waiting p m) => if l.locked m then none else some (l.setStage t (.holding p m))
    | _ => none
  | .cancel =>
    match l.tasks[t]? with
    | some (.waiting _ _) => some (l.setStage t .idle)
    | _ => none
  | .release =>
    match l.tasks[t]? with
    | some (.holding p _) => some (l.setStage t (l.afterRelease p))
    | _ => none
  | .sweep =>
    match l.tasks[t]? with
    | some (.releasing p) => some ((l.sweep p).setStage t .idle)
    | _ => none

/-- The steps of the tasks taken one after another, as a scheduler
    interleaves them; none if one of them cannot be taken. -/
def run (l : WriteLock) (moves : List (Nat × LockMove)) : Option WriteLock :=
  moves.foldlM (fun l e => l.step e.1 e.2) l

end WriteLock

end Warden.Service
