import DuckdbOracle.Catalog.Enumeration
import DuckdbOracle.Foundations.LockOrder

/-!
# The mutexes of the extension

Four kinds of mutex guard the extension's shared objects: one for the registry of
attached databases, one for each `OracleCatalogState`, one for the connection manager
and one for each connection pool.  None of them is recursive.  They are taken in nested
calls and by destructors: a method of a state runs under the state's lock and acquires
a session, which takes the manager's mutex and then a pool's; a connection that is
dropped on the way puts its session back, which takes a pool's lock; and
`ClearAllCaches` does all that under the registry's lock.

Each operation below is the list of the lock operations that one run of it does.  What
the run depends on besides the state it finds is an argument: the pool it is given, how
often it waits, whether `CreateConnection` throws, whether it drops the last reference
to a handle.  Any combination is allowed, so that every run of the code is among them.

The order is registry, state, then manager or pool (`Mutex.rank`).  Every operation
keeps to it, whatever it meets (`balanced_trace`), so no threads ever wait for each
other in a circle (`no_lock_cycle`).
-/

namespace DuckdbOracle
namespace Locking

open Catalog LockOrder StepRuns

/-- The mutexes; states and pools are numbered. -/
inductive Mutex where
  | registry
  | state (s : ℕ)
  | manager
  | pool (p : ℕ)
  deriving DecidableEq

/-! ## Sessions -/

/-- `OracleConnectionHandle::~OracleConnectionHandle`: a handle of a pool puts its
session back. -/
def destroyHandle : Option ℕ → List (Action Mutex)
  | some p => guarded (.pool p) []
  | none => []

/-- A shared pointer to a handle: the handle's pool, and whether it is the last one. -/
structure HandleRef where
  pool : Option ℕ
  last : Bool

/-- The pointer goes out of scope. -/
def HandleRef.drop (ref : HandleRef) : List (Action Mutex) :=
  if ref.last then destroyHandle ref.pool else []

/-- How a call of `Acquire` on a pool ends. -/
inductive AcquireEnd where
  /-- It takes an idle session. -/
  | reused
  /-- It unlocks the pool, and `CreateConnection` returns. -/
  | created
  /-- It unlocks the pool, and `CreateConnection` throws: it locks the pool again to give
  the reservation back. -/
  | createThrew
  /-- It waits once more, until the deadline. -/
  | timedOut
  deriving DecidableEq

/-- What a call of `Acquire` meets: the pool of its connection string, how often it waits
there and is woken, and how it ends. -/
structure AcquireRun where
  pool : ℕ
  waits : ℕ
  ending : AcquireEnd

/-- To unlock the pool and to lock it again. -/
def relock (p : ℕ) : List (Action Mutex) := [.unlock (.pool p), .lock (.pool p)]

/-- `OracleConnectionManager::Acquire`. -/
def acquire (settings : OracleSettings) (run : AcquireRun) : List (Action Mutex) :=
  if !settings.connectionCache then []
  else
    guarded .manager [] ++
      guarded (.pool run.pool)
        ((List.replicate run.waits ()).flatMap (fun _ => relock run.pool) ++
          match run.ending with
          | .reused => []
          -- the lock is given back before the end, and not taken again
          | .created => []
          | .createThrew => relock run.pool
          | .timedOut => relock run.pool)

/-- `OracleConnectionManager::Clear`: the pools that go lock nothing. -/
def clear : List (Action Mutex) := guarded .manager []

/-! ## The methods of a state -/

/-- What a method finds once it has the state's lock, and meets then: the state, the
pointer in its connection (if it has one), and the run of `Acquire` (if it calls it). -/
structure Met where
  state : OracleCatalogState
  handle : HandleRef
  acquire : AcquireRun

/-- The connection of the state is replaced or destroyed. -/
def Met.dropConnection (met : Met) : List (Action Mutex) :=
  match met.state.connection with
  | some _ => met.handle.drop
  | none => []

/-- `EnsureConnectionInternal`; `OracleConnection::Connect` acquires with the default
settings. -/
def Met.ensureConnectionInternal (met : Met) : List (Action Mutex) :=
  (if met.state.settings.connectionCache then [] else met.dropConnection) ++
    match met.state.dropUncached.connection with
    | some _ => []
    | none => Locking.acquire {} met.acquire

/-- A method of the state `s` that ensures the connection unless it knows the answer.  The
queries it sends lock nothing, and an exception only leaves the guarded scope earlier. -/
def ensuring (s : ℕ) (known : Bool) (met : Met) : List (Action Mutex) :=
  guarded (.state s) (if known then [] else met.ensureConnectionInternal)

def connect (s : ℕ) (met : Met) : List (Action Mutex) := ensuring s false met

def query (s : ℕ) (met : Met) : List (Action Mutex) := ensuring s false met

def detectCurrentSchema (s : ℕ) (met : Met) : List (Action Mutex) :=
  ensuring s (met.state.currentSchema ≠ "") met

def detectOracleVersion (s : ℕ) (met : Met) : List (Action Mutex) :=
  ensuring s met.state.versionDetected met

/-- `GetVersionInfo` reads `version_detected` without the lock. -/
def getVersionInfo (s : ℕ) (versionDetected : Bool) (met : Met) : List (Action Mutex) :=
  if versionDetected then [] else detectOracleVersion s met

def listSchemas (s : ℕ) (met : Met) : List (Action Mutex) :=
  ensuring s (met.state.schemaCache ≠ []) met

def listTables (s : ℕ) (schema : String) (met : Met) : List (Action Mutex) :=
  ensuring s (met.state.tableCache.lookup schema).isSome met

def listObjects (s : ℕ) (schema objectTypes : String) (met : Met) : List (Action Mutex) :=
  ensuring s (met.state.objectCache.lookup (cacheKey schema objectTypes)).isSome met

def resolveSynonym (s : ℕ) (met : Met) : List (Action Mutex) := ensuring s false met

def objectExists (s : ℕ) (met : Met) : List (Action Mutex) := ensuring s false met

def getObjectName (s : ℕ) (met : Met) : List (Action Mutex) := ensuring s false met

def getRealSchemaName (s : ℕ) (met : Met) : List (Action Mutex) := ensuring s false met

/-- `ClearCaches`. -/
def clearCaches (s : ℕ) (met : Met) : List (Action Mutex) :=
  guarded (.state s) met.dropConnection

/-! ## The registry -/

/-- An entry of the registry: its state is gone, or it is cleared; the pointer that holds
it for that time may be the last one in the end, and then the state, as it is by then, is
destroyed. -/
inductive RegistryEntry where
  | expired
  | live (s : ℕ) (met : Met) (destroyed : Option Met)

def RegistryEntry.clear : RegistryEntry → List (Action Mutex)
  | .expired => []
  | .live s met none => clearCaches s met
  | .live s met (some last) => clearCaches s met ++ last.dropConnection

/-- `ClearAllCaches`. -/
def clearAllCaches (entries : List RegistryEntry) : List (Action Mutex) :=
  guarded .registry (entries.flatMap RegistryEntry.clear)

/-- `Register`, with or without an alias. -/
def register : List (Action Mutex) := guarded .registry []

def lookupByAlias : List (Action Mutex) := guarded .registry []

/-! ## Operations and threads -/

/-- One run of one operation. -/
inductive Operation where
  | acquire (settings : OracleSettings) (run : AcquireRun)
  | destroyHandle (pool : Option ℕ)
  | clear
  | connect (s : ℕ) (met : Met)
  | query (s : ℕ) (met : Met)
  | detectCurrentSchema (s : ℕ) (met : Met)
  | detectOracleVersion (s : ℕ) (met : Met)
  | getVersionInfo (s : ℕ) (versionDetected : Bool) (met : Met)
  | listSchemas (s : ℕ) (met : Met)
  | listTables (s : ℕ) (schema : String) (met : Met)
  | listObjects (s : ℕ) (schema objectTypes : String) (met : Met)
  | resolveSynonym (s : ℕ) (met : Met)
  | objectExists (s : ℕ) (met : Met)
  | getObjectName (s : ℕ) (met : Met)
  | getRealSchemaName (s : ℕ) (met : Met)
  | clearCaches (s : ℕ) (met : Met)
  | clearAllCaches (entries : List RegistryEntry)
  | register
  | lookupByAlias

/-- The lock operations of a run. -/
def Operation.trace : Operation → List (Action Mutex)
  | .acquire settings run => Locking.acquire settings run
  | .destroyHandle pool => Locking.destroyHandle pool
  | .clear => Locking.clear
  | .connect s met => Locking.connect s met
  | .query s met => Locking.query s met
  | .detectCurrentSchema s met => Locking.detectCurrentSchema s met
  | .detectOracleVersion s met => Locking.detectOracleVersion s met
  | .getVersionInfo s versionDetected met => Locking.getVersionInfo s versionDetected met
  | .listSchemas s met => Locking.listSchemas s met
  | .listTables s schema met => Locking.listTables s schema met
  | .listObjects s schema objectTypes met => Locking.listObjects s schema objectTypes met
  | .resolveSynonym s met => Locking.resolveSynonym s met
  | .objectExists s met => Locking.objectExists s met
  | .getObjectName s met => Locking.getObjectName s met
  | .getRealSchemaName s met => Locking.getRealSchemaName s met
  | .clearCaches s met => Locking.clearCaches s met
  | .clearAllCaches entries => Locking.clearAllCaches entries
  | .register => Locking.register
  | .lookupByAlias => Locking.lookupByAlias

/-- An idle thread calls an operation, or a thread does its next lock operation. -/
inductive ThreadEvent (T : Type*) where
  | call (t : T) (op : Operation)
  | act (t : T)

/-- One step of one thread. -/
def threadStep {T : Type*} [DecidableEq T] (c : Threads T Mutex) :
    ThreadEvent T → Option (Threads T Mutex)
  | .call t op => LockOrder.step c (.call t op.trace)
  | .act t => LockOrder.step c (.act t)

/-! ## The order -/

/-- The manager's mutex and the pools' are the last ones; none of them is requested under
another. -/
def Mutex.rank : Mutex → ℕ
  | .registry => 0
  | .state _ => 1
  | .manager => 2
  | .pool _ => 2

/-- What is held comes before the mutexes of rank `n`. -/
def Below (n : ℕ) (s : Set Mutex) : Prop := ∀ m ∈ s, m.rank < n

theorem Below.empty (n : ℕ) : Below n ∅ := fun m hm => absurd hm (Set.notMem_empty m)

theorem Below.insert {n k : ℕ} {s : Set Mutex} (hs : Below k s) (hk : k ≤ n) (l : Mutex)
    (hl : l.rank < n) : Below n (insert l s) := by
  rintro m (rfl | hm)
  · exact hl
  · exact (hs m hm).trans_le hk

section Balanced

variable {s : Set Mutex}

/-- The rules of a guarded scope and of a wait, with the order of the mutexes. -/
theorem balanced_guarded (l : Mutex) {body : List (Action Mutex)} (hs : Below l.rank s)
    (hbody : Balanced Mutex.rank (insert l s) body) :
    Balanced Mutex.rank s (guarded l body) :=
  Balanced.guarded hs hbody

theorem balanced_relock (l : Mutex) (hs : Below l.rank s) :
    Balanced Mutex.rank (insert l s) [.unlock l, .lock l] :=
  Balanced.relock hs

theorem balanced_destroyHandle (hs : Below 2 s) (pool : Option ℕ) :
    Balanced Mutex.rank s (destroyHandle pool) := by
  cases pool with
  | none => exact Balanced.nil
  | some p => exact balanced_guarded (.pool p) hs Balanced.nil

theorem balanced_drop (hs : Below 2 s) (ref : HandleRef) : Balanced Mutex.rank s ref.drop := by
  unfold HandleRef.drop
  split
  · exact balanced_destroyHandle hs ref.pool
  · exact Balanced.nil

/-- **`Acquire` is in order under any lock but the manager's and the pools'.** -/
theorem balanced_acquire (hs : Below 2 s) (settings : OracleSettings) (run : AcquireRun) :
    Balanced Mutex.rank s (acquire settings run) := by
  have hrelock : Balanced Mutex.rank (insert (.pool run.pool) s) (relock run.pool) :=
    balanced_relock (.pool run.pool) hs
  have hwaits : Balanced Mutex.rank (insert (.pool run.pool) s)
      ((List.replicate run.waits ()).flatMap fun _ => relock run.pool) :=
    Balanced.flatMap fun _ _ => hrelock
  unfold acquire
  split
  · exact Balanced.nil
  · refine (balanced_guarded .manager hs Balanced.nil).append
      (balanced_guarded (.pool run.pool) hs (hwaits.append ?_))
    cases run.ending with
    | reused => exact Balanced.nil
    | created => exact Balanced.nil
    | createThrew => exact hrelock
    | timedOut => exact hrelock

theorem balanced_dropConnection (hs : Below 2 s) (met : Met) :
    Balanced Mutex.rank s met.dropConnection := by
  unfold Met.dropConnection
  split
  · exact balanced_drop hs met.handle
  · exact Balanced.nil

theorem balanced_ensureConnectionInternal (hs : Below 2 s) (met : Met) :
    Balanced Mutex.rank s met.ensureConnectionInternal := by
  unfold Met.ensureConnectionInternal
  refine Balanced.append ?_ ?_
  · split
    · exact Balanced.nil
    · exact balanced_dropConnection hs met
  · split
    · exact Balanced.nil
    · exact balanced_acquire hs {} met.acquire

/-- **Every method of a state is in order under the registry's lock or none.** -/
theorem balanced_ensuring (hs : Below 1 s) (i : ℕ) (known : Bool) (met : Met) :
    Balanced Mutex.rank s (ensuring i known met) := by
  refine balanced_guarded (.state i) hs ?_
  split
  · exact Balanced.nil
  · exact balanced_ensureConnectionInternal (hs.insert (by omega) (.state i) Nat.one_lt_two) met

theorem balanced_clearCaches (hs : Below 1 s) (i : ℕ) (met : Met) :
    Balanced Mutex.rank s (clearCaches i met) :=
  balanced_guarded (.state i) hs
    (balanced_dropConnection (hs.insert (by omega) (.state i) Nat.one_lt_two) met)

theorem balanced_registryEntry (hs : Below 1 s) (entry : RegistryEntry) :
    Balanced Mutex.rank s entry.clear := by
  have hs' : Below 2 s := fun m hm => (hs m hm).trans (by decide)
  cases entry with
  | expired => exact Balanced.nil
  | live i met destroyed =>
    cases destroyed with
    | none => exact balanced_clearCaches hs i met
    | some last => exact (balanced_clearCaches hs i met).append (balanced_dropConnection hs' last)

theorem balanced_clearAllCaches (entries : List RegistryEntry) :
    Balanced Mutex.rank ∅ (clearAllCaches entries) := by
  refine balanced_guarded .registry (Below.empty 0) (Balanced.flatMap fun entry _ => ?_)
  exact balanced_registryEntry ((Below.empty 0).insert (by omega) .registry Nat.one_pos) entry

end Balanced

/-- **Every operation is in order**, whatever it meets. -/
theorem balanced_trace (op : Operation) : Balanced Mutex.rank ∅ op.trace := by
  have hensuring := @balanced_ensuring ∅ (Below.empty 1)
  cases op with
  | acquire settings run => exact balanced_acquire (Below.empty 2) settings run
  | destroyHandle pool => exact balanced_destroyHandle (Below.empty 2) pool
  | clear => exact balanced_guarded .manager (Below.empty 2) Balanced.nil
  | connect s met => exact hensuring s _ met
  | query s met => exact hensuring s _ met
  | detectCurrentSchema s met => exact hensuring s _ met
  | detectOracleVersion s met => exact hensuring s _ met
  | getVersionInfo s versionDetected met =>
    cases versionDetected with
    | true => exact Balanced.nil
    | false => exact hensuring s _ met
  | listSchemas s met => exact hensuring s _ met
  | listTables s schema met => exact hensuring s _ met
  | listObjects s schema objectTypes met => exact hensuring s _ met
  | resolveSynonym s met => exact hensuring s _ met
  | objectExists s met => exact hensuring s _ met
  | getObjectName s met => exact hensuring s _ met
  | getRealSchemaName s met => exact hensuring s _ met
  | clearCaches s met => exact balanced_clearCaches (Below.empty 1) s met
  | clearAllCaches entries => exact balanced_clearAllCaches entries
  | register => exact balanced_guarded .registry (Below.empty 0) Balanced.nil
  | lookupByAlias => exact balanced_guarded .registry (Below.empty 0) Balanced.nil

/-! ## Every interleaving -/

section Runs

variable {T : Type*} [DecidableEq T]

theorem inOrder_threadStep {c c' : Threads T Mutex} {e : ThreadEvent T}
    (hc : InOrder Mutex.rank c) (h : threadStep c e = some c') : InOrder Mutex.rank c' := by
  cases e with
  | call t op =>
    have hstep : LockOrder.step c (.call t op.trace) = some c' := h
    refine hc.step (fun u trace he => ?_) hstep
    obtain ⟨-, rfl⟩ := LockOrder.Event.call.inj he
    exact (balanced_trace op).ordered
  | act t =>
    have hstep : LockOrder.step c (.act t) = some c' := h
    exact hc.step (fun u trace he => by cases he) hstep

/-- **No lock cycle.**  However any number of threads interleave, no thread requests a
mutex that it holds, and no threads wait for each other in a circle. -/
theorem no_lock_cycle {es : List (ThreadEvent T)} {c : Threads T Mutex}
    (h : run threadStep Threads.idle es = some c) :
    (∀ t l, Requests c t l → c.owner l ≠ some t) ∧
      ∀ t, ¬ Relation.TransGen (WaitsFor c) t t := by
  have hc : InOrder Mutex.rank c :=
    run_invariant (fun s e s' hs hstep => inOrder_threadStep hs hstep) InOrder.idle h
  exact ⟨fun t l hl => not_owner_of_requests hc hl, not_waits_self hc⟩

end Runs

/-- A connected state with caching off, whose connection holds the last pointer to a handle
of pool 0; the next connect acquires from pool 0 as well. -/
def metUncached : Met where
  state := { connectionString := "u/p@db", settings := { connectionCache := false },
             connection := some "u/p@db" }
  handle := ⟨some 0, true⟩
  acquire := ⟨0, 1, .createThrew⟩

/-- Thread 0 clears all caches while thread 1 queries the same state and thread 2 destroys a
handle. -/
def clearingRun : List (ThreadEvent ℕ) :=
  [.call 2 (.destroyHandle (some 0)), .act 2, .call 1 (.query 0 metUncached), .act 1,
    .call 0 (.clearAllCaches [.live 0 metUncached none]), .act 0]

/-- Thread 0 holds the registry's lock and waits for the state's; thread 1 holds that and
waits for the lock of the pool, which thread 2 holds. -/
theorem no_lock_cycle_clearing :
    ∃ c : Threads ℕ Mutex,
      run threadStep Threads.idle clearingRun = some c ∧
      (WaitsFor c 0 1 ∧ WaitsFor c 1 2) ∧
      (∀ t l, Requests c t l → c.owner l ≠ some t) ∧
        ∀ t, ¬ Relation.TransGen (WaitsFor c) t t :=
  ⟨_, rfl, ⟨⟨.state 0, ⟨_, rfl⟩, rfl⟩, ⟨.pool 0, ⟨_, rfl⟩, rfl⟩⟩,
    @no_lock_cycle ℕ _ clearingRun _ rfl⟩

end Locking
end DuckdbOracle
