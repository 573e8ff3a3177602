import Mathlib.Data.List.Induction
import Mathlib.Logic.Function.Basic
import DuckdbOracle.Catalog.Secret
import DuckdbOracle.Catalog.State

/-!
# Is every attached database its own?

DuckDB hands the extension's one `OracleStorageInfo` to every `ATTACH`.  The first
`ATTACH` that gets as far as a connection string makes a state and stores it there,
before it is known whether the connection works; every later one finds that state,
drops its own connection string, and applies its options to the settings all the
others use.

`attachAll` runs any sequence of `ATTACH` statements.  The invariant (`Shared`) says
what the one state is: the connection string of the first statement that resolved
one, and the settings that the options of all statements make in turn.  So a
catalog queries its own server under its own settings exactly if both agree with
what its own statement asks for (`catalog_isolated_iff`).
-/

namespace DuckdbOracle
namespace Catalog

open Duckdb OracleCatalogState

/-- An `ATTACH` statement of the type `oracle`, with the answers it meets. -/
structure AttachRequest where
  name : String
  path : String
  options : List (String × Value) := []
  secrets : SecretManager := {}
  oracle : InitializeAnswers := {}

/-- The connection string an `ATTACH` asks for. -/
def AttachRequest.connectionString (r : AttachRequest) : Except String String :=
  resolveConnectionString r.path r.secrets r.options

/-- `OracleCatalog`: the statement that made it and the number of its state. -/
structure OracleCatalog where
  request : AttachRequest
  state : ℕ

/-- The part of a DuckDB instance, and of the process, that `ATTACH` works on.  States
are numbered in the order in which they are made. -/
structure Instance where
  states : List OracleCatalogState := []
  /-- `OracleStorageInfo::state`. -/
  storageInfo : Option ℕ := none
  /-- `AliasRegistry()`. -/
  aliases : String → Option ℕ := fun _ => none
  /-- The catalogs that `ATTACH` has returned. -/
  catalogs : List OracleCatalog := []

/-- `OracleCatalogState::Register`. -/
def Instance.register (db : Instance) (p : ℕ) (name : String) : Instance :=
  if name = "" then db
  else { db with aliases := Function.update db.aliases (lower name) (some p) }

/-- The state an `ATTACH` works on: the one in the storage info, or a new one that is
stored there. -/
def Instance.sharedState (db : Instance) (connectionString name : String) : Instance × ℕ :=
  match db.storageInfo with
  | some p => (db, p)
  | none =>
    ({ db.register db.states.length name with
       states := db.states ++ [{ connectionString := connectionString }]
       storageInfo := some db.states.length }, db.states.length)

/-- `OracleAttach`: the catalog's state, or the exception. -/
def oracleAttach (db : Instance) (r : AttachRequest) : Instance × Except String ℕ :=
  match r.connectionString with
  | .error e => (db, .error e)
  | .ok cs =>
    match db.sharedState cs r.name with
    | (db, p) =>
      match db.states[p]? with
      | some state =>
        ({ db with states := db.states.set p (state.attach r.options r.oracle).1 },
          (state.attach r.options r.oracle).2.map fun _ => p)
      -- a reference never dangles
      | none => (db, .error "no state")

/-- An `ATTACH` statement; its catalog is kept when it returns one. -/
def attachStep (db : Instance) (r : AttachRequest) : Instance :=
  match oracleAttach db r with
  | (db, .ok p) => { db with catalogs := db.catalogs ++ [⟨r, p⟩] }
  | (db, .error _) => db

/-- A sequence of `ATTACH` statements on a fresh instance. -/
def attachAll (rs : List AttachRequest) : Instance := rs.foldl attachStep {}

/-! ## The property and the condition -/

/-- The settings the options of a statement give. -/
def AttachRequest.settings (r : AttachRequest) : OracleSettings :=
  (applyOptions {} r.options).1

/-- **The catalog is its own**: scans and metadata queries go through the connection
string its statement asked for, under the settings its options give. -/
def Isolated (db : Instance) (c : OracleCatalog) : Prop :=
  ∃ state cs, db.states[c.state]? = some state ∧ c.request.connectionString = .ok cs ∧
    state.connectionString = cs ∧ (state.ensureConnection (.ok ())).1.connection = some cs ∧
    state.settings = c.request.settings

/-- The first connection string that a statement of the sequence resolves. -/
def firstConnectionString (rs : List AttachRequest) : Option String :=
  rs.findSome? fun r => r.connectionString.toOption

/-- The settings that the options of all statements make in turn; a statement that
resolves no connection string does not get to its options. -/
def combinedSettings (rs : List AttachRequest) : OracleSettings :=
  rs.foldl (fun settings r =>
    match r.connectionString with
    | .ok _ => (applyOptions settings r.options).1
    | .error _ => settings) {}

/-! ## What the one state is -/

/-- The state in the storage info after the statements `rs`. -/
def HasState (rs : List AttachRequest) (db : Instance) : Option String → Prop
  | none => db.states = [] ∧ db.storageInfo = none
  | some cs => ∃ state, db.states = [state] ∧ db.storageInfo = some 0 ∧
      state.connectionString = cs ∧ state.settings = combinedSettings rs ∧ state.OwnConnection

/-- The invariant of `attachAll`. -/
structure Shared (rs : List AttachRequest) (db : Instance) : Prop where
  state : HasState rs db (firstConnectionString rs)
  catalog : ∀ c ∈ db.catalogs,
    c.state = 0 ∧ c.request ∈ rs ∧ ∃ cs, c.request.connectionString = .ok cs

theorem shared_nil : Shared [] {} where
  state := ⟨rfl, rfl⟩
  catalog _ h := absurd h (by simp)

theorem firstConnectionString_concat (rs : List AttachRequest) (r : AttachRequest) :
    firstConnectionString (rs ++ [r]) =
      (firstConnectionString rs).or r.connectionString.toOption := by
  rw [firstConnectionString, List.findSome?_append, firstConnectionString]
  congr 1
  rw [List.findSome?_cons]
  cases r.connectionString.toOption <;> rfl

theorem combinedSettings_concat {rs : List AttachRequest} {r : AttachRequest} {cs : String}
    (h : r.connectionString = .ok cs) :
    combinedSettings (rs ++ [r]) = (applyOptions (combinedSettings rs) r.options).1 := by
  simp only [combinedSettings, List.foldl_append, List.foldl_cons, List.foldl_nil, h]

theorem combinedSettings_concat_error {rs : List AttachRequest} {r : AttachRequest} {e : String}
    (h : r.connectionString = .error e) : combinedSettings (rs ++ [r]) = combinedSettings rs := by
  simp only [combinedSettings, List.foldl_append, List.foldl_cons, List.foldl_nil, h]

/-- Before any connection string is resolved nothing has set any option. -/
theorem combinedSettings_of_none {rs : List AttachRequest} (h : firstConnectionString rs = none) :
    combinedSettings rs = {} := by
  induction rs using List.reverseRecOn with
  | nil => rfl
  | append_singleton rs r ih =>
    rw [firstConnectionString_concat, Option.or_eq_none_iff] at h
    cases hr : r.connectionString with
    | ok cs => exact absurd h.2 (by rw [hr]; simp [Except.toOption])
    | error e => rw [combinedSettings_concat_error hr, ih h.1]

theorem register_catalogs (db : Instance) (p : ℕ) (name : String) :
    (db.register p name).catalogs = db.catalogs := by
  unfold Instance.register
  split <;> rfl

/-- The state an `ATTACH` works on carries the first connection string there was. -/
theorem sharedState_spec {rs : List AttachRequest} {db : Instance}
    (hs : HasState rs db (firstConnectionString rs)) (cs name : String) :
    (db.sharedState cs name).2 = 0 ∧ (db.sharedState cs name).1.catalogs = db.catalogs ∧
      (db.sharedState cs name).1.storageInfo = some 0 ∧
      ∃ state, (db.sharedState cs name).1.states = [state] ∧
        state.connectionString = (firstConnectionString rs).getD cs ∧
        state.settings = combinedSettings rs ∧ state.OwnConnection := by
  cases hfirst : firstConnectionString rs with
  | none =>
    -- the first connection string: a new state is made and stored
    rw [hfirst] at hs
    obtain ⟨hstates, hinfo⟩ := hs
    unfold Instance.sharedState
    rw [hinfo, hstates]
    refine ⟨rfl, register_catalogs db 0 name, rfl, { connectionString := cs }, rfl, rfl, ?_, ?_⟩
    · rw [combinedSettings_of_none hfirst]
    · exact fun _ h => absurd h (by simp)
  | some first =>
    rw [hfirst] at hs
    obtain ⟨state, hstates, hinfo, hcs, hsettings, hown⟩ := hs
    unfold Instance.sharedState
    rw [hinfo]
    exact ⟨rfl, rfl, hinfo, state, hstates, hcs, hsettings, hown⟩

/-- An `ATTACH` that resolves no connection string changes nothing. -/
theorem oracleAttach_of_error {db : Instance} {r : AttachRequest} {e : String}
    (hr : r.connectionString = .error e) : oracleAttach db r = (db, .error e) := by
  rw [oracleAttach, hr]

/-- **What an `ATTACH` does to the shared state**: it applies its options, and keeps
the connection string. -/
theorem oracleAttach_spec {rs : List AttachRequest} {db : Instance} {r : AttachRequest}
    {cs : String} (hs : HasState rs db (firstConnectionString rs))
    (hr : r.connectionString = .ok cs) :
    HasState (rs ++ [r]) (oracleAttach db r).1 (firstConnectionString (rs ++ [r])) ∧
      (oracleAttach db r).1.catalogs = db.catalogs ∧
      ∀ p, (oracleAttach db r).2 = .ok p → p = 0 := by
  obtain ⟨hzero, hcatalogs, hinfo, state, hstates, hcs, hsettings, hown⟩ :=
    sharedState_spec hs cs r.name
  have hsame := sameServer_attach state r.options r.oracle
  have hfirst : firstConnectionString (rs ++ [r]) = some ((firstConnectionString rs).getD cs) := by
    rw [firstConnectionString_concat, hr]
    cases firstConnectionString rs <;> rfl
  have hget : (db.sharedState cs r.name).1.states[(db.sharedState cs r.name).2]? = some state := by
    rw [hzero, hstates]
    rfl
  have hattach : oracleAttach db r =
      ({ (db.sharedState cs r.name).1 with states := [(state.attach r.options r.oracle).1] },
        (state.attach r.options r.oracle).2.map fun _ => 0) := by
    simp only [oracleAttach, hr, hget]
    rw [hzero, hstates]
    rfl
  rw [hattach, hfirst]
  refine ⟨⟨_, rfl, hinfo, ?_, ?_, hsame.connection hown⟩, hcatalogs, fun p hp => ?_⟩
  · rw [hsame.connectionString, hcs]
  · rw [hsame.settings, combinedSettings_concat hr, hsettings]
  · cases hout : (state.attach r.options r.oracle).2 with
    | ok _ => rw [hout] at hp; exact (Except.ok.inj hp).symm
    | error e => rw [hout] at hp; exact nomatch hp

/-- A step keeps the shared state, and the catalogs there are. -/
theorem Shared.step {rs : List AttachRequest} {db : Instance} (hs : Shared rs db)
    (r : AttachRequest) : Shared (rs ++ [r]) (attachStep db r) := by
  have hkeep : ∀ c ∈ db.catalogs,
      c.state = 0 ∧ c.request ∈ rs ++ [r] ∧ ∃ cs, c.request.connectionString = .ok cs := by
    intro c hc
    obtain ⟨hstate, hmem, hcs⟩ := hs.catalog c hc
    exact ⟨hstate, List.mem_append_left [r] hmem, hcs⟩
  unfold attachStep
  cases hr : r.connectionString with
  | error e =>
    rw [oracleAttach_of_error hr]
    refine ⟨?_, hkeep⟩
    have hstate := hs.state
    have hnone : r.connectionString.toOption = none := by rw [hr]; rfl
    rw [firstConnectionString_concat, hnone, Option.or_none]
    unfold HasState at hstate ⊢
    rw [combinedSettings_concat_error hr]
    exact hstate
  | ok cs =>
    obtain ⟨hstate, hcatalogs, hp⟩ := oracleAttach_spec hs.state hr
    split
    · next db' p heq =>
      rw [heq] at hstate hcatalogs hp
      refine ⟨?_, fun c hc => ?_⟩
      · unfold HasState at hstate ⊢
        exact hstate
      · rcases List.mem_append.mp hc with hold | hnew
        · exact hkeep c (hcatalogs ▸ hold)
        · obtain rfl := List.mem_singleton.mp hnew
          exact ⟨hp p rfl, by simp, cs, hr⟩
    · next db' e heq =>
      rw [heq] at hstate hcatalogs
      exact ⟨hstate, fun c hc => hkeep c (hcatalogs ▸ hc)⟩

/-- **Every sequence of `ATTACH` statements shares one state.** -/
theorem shared_attachAll (rs : List AttachRequest) : Shared rs (attachAll rs) := by
  induction rs using List.reverseRecOn with
  | nil => exact shared_nil
  | append_singleton rs r ih =>
    have hstep : attachAll (rs ++ [r]) = attachStep (attachAll rs) r := by
      rw [attachAll, List.foldl_append, List.foldl_cons, List.foldl_nil, attachAll]
    rw [hstep]
    exact ih.step r

/-- A statement that resolves a connection string leaves a first one. -/
theorem exists_firstConnectionString {rs : List AttachRequest} {r : AttachRequest} {cs : String}
    (hmem : r ∈ rs) (hr : r.connectionString = .ok cs) :
    ∃ first, firstConnectionString rs = some first := by
  cases hfirst : firstConnectionString rs with
  | some first => exact ⟨first, rfl⟩
  | none =>
    have hnone := List.findSome?_eq_none_iff.mp hfirst r hmem
    rw [hr] at hnone
    exact nomatch hnone

/-- **Which catalogs are their own.**  After any sequence of `ATTACH` statements a
catalog that one of them returned queries its own server under its own settings
exactly if the first connection string of the sequence is its own, and its options
alone give the settings that the options of all statements give in turn. -/
theorem catalog_isolated_iff {rs : List AttachRequest} {c : OracleCatalog}
    (hc : c ∈ (attachAll rs).catalogs) :
    Isolated (attachAll rs) c ↔
      firstConnectionString rs = c.request.connectionString.toOption ∧
        combinedSettings rs = c.request.settings := by
  obtain ⟨hstate, hcatalog⟩ := shared_attachAll rs
  obtain ⟨hzero, hmem, cs, hcs⟩ := hcatalog c hc
  obtain ⟨first, hfirst⟩ := exists_firstConnectionString hmem hcs
  rw [hfirst] at hstate
  obtain ⟨state, hstates, -, hstring, hsettings, hown⟩ := hstate
  have hquery := connection_ensureConnection hown
  have hget : (attachAll rs).states[c.state]? = some state := by
    rw [hzero, hstates]
    rfl
  have hsome : c.request.connectionString.toOption = some cs := by rw [hcs]; rfl
  rw [hfirst, hsome, ← hstring, ← hsettings]
  constructor
  · rintro ⟨state', cs', hget', hcs', hstring', -, hsettings'⟩
    rw [hget] at hget'
    rw [hcs] at hcs'
    obtain rfl := Option.some.inj hget'
    obtain rfl := Except.ok.inj hcs'
    exact ⟨congrArg some hstring', hsettings'⟩
  · rintro ⟨hsame, hsettings'⟩
    have hsame := Option.some.inj hsame
    exact ⟨state, cs, hget, hcs, hsame, hsame ▸ hquery, hsettings'⟩

/-- Two databases on the same server, attached without options. -/
def sameServer : List AttachRequest :=
  [{ name := "a", path := "scott/tiger@db" }, { name := "b", path := "scott/tiger@db" }]

theorem catalog_isolated_sameServer :
    Isolated (attachAll sameServer) ⟨{ name := "b", path := "scott/tiger@db" }, 0⟩ :=
  (catalog_isolated_iff (List.mem_cons_of_mem _ List.mem_cons_self)).mpr ⟨rfl, rfl⟩

/-- **The second database is the first one.**  Of two databases on two servers the
second catalog queries the first server. -/
theorem second_attach_shares :
    ∃ c ∈ (attachAll
        [{ name := "a", path := "scott/tiger@db1" },
          { name := "b", path := "hr/hr@db2" }]).catalogs,
      ¬ Isolated (attachAll
        [{ name := "a", path := "scott/tiger@db1" },
          { name := "b", path := "hr/hr@db2" }]) c := by
  refine ⟨_, List.mem_cons_of_mem _ List.mem_cons_self, ?_⟩
  rintro ⟨state, cs, hstate, hcs, hstring, -⟩
  obtain rfl := Option.some.inj hstate
  obtain rfl := Except.ok.inj hcs
  exact absurd hstring (by decide)

end Catalog
end DuckdbOracle
