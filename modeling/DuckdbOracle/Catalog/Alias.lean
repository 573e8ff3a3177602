import DuckdbOracle.Catalog.Attach
import DuckdbOracle.Foundations.StepRuns

/-!
# Which database an alias names

`oracle_execute` and `oracle_query` take a connection string or, if there is no `@` in
it, the name of an attached database.  The name is looked up in `AliasRegistry()`, which
keeps weak references: an entry is good as long as a catalog, or the storage info, has
the state that it refers to.

An `ATTACH` registers its name only when it makes a state, and the storage info lets no
state go.  So the registry has one entry at most, and that one stays: a second database
is not found under its name, and the name of the first is found after its `DETACH`, and
finds the server of the first.  `aliases_exact_iff` says in which runs that does no harm.
-/

namespace DuckdbOracle
namespace Catalog

open Duckdb OracleCatalogState StepRuns

/-! ## Lookup -/

/-- Whether a weak reference to a state can still be locked. -/
def Instance.alive (db : Instance) (p : ℕ) : Bool :=
  db.storageInfo == some p || db.catalogs.any fun c => c.state == p

/-- `OracleCatalogState::LookupByAlias`: an entry without a state is erased. -/
def Instance.lookupByAlias (db : Instance) (name : String) : Instance × Option ℕ :=
  match db.aliases (lower name) with
  | none => (db, none)
  | some p =>
    if db.alive p then (db, some p)
    else ({ db with aliases := Function.update db.aliases (lower name) none }, none)

/-- The connection string `oracle_query` uses for its first argument. -/
def Instance.queryConnectionString (db : Instance) (text : String) : Instance × String :=
  if '@' ∈ text.toList then (db, text)
  else
    match db.lookupByAlias text with
    | (db, some p) => (db, (db.states[p]?.map (·.connectionString)).getD text)
    | (db, none) => (db, text)

/-- The connection string `oracle_execute` uses; for an empty one it returns `NULL`. -/
def Instance.executeConnectionString (db : Instance) (text : String) :
    Instance × Option String :=
  if text = "" then (db, none)
  else
    match db.queryConnectionString text with
    | (db, connectionString) => (db, some connectionString)

/-! ## Runs -/

/-- A database of the type `oracle` is attached under the name. -/
def Instance.Attached (db : Instance) (name : String) : Prop :=
  ∃ c ∈ db.catalogs, lower c.request.name = lower name

instance (db : Instance) (name : String) : Decidable (db.Attached name) :=
  inferInstanceAs (Decidable (∃ c ∈ db.catalogs, lower c.request.name = lower name))

/-- What happens to the aliases. -/
inductive AliasEvent where
  /-- An `ATTACH`; DuckDB may refuse the catalog that it returns. -/
  | attach (r : AttachRequest) (admitted : Bool)
  | detach (name : String)
  | oracleExecute (text : String)
  | oracleQuery (text : String)

/-- The `ATTACH` succeeds: its catalog is returned and admitted. -/
def Succeeds (db : Instance) (r : AttachRequest) (admitted : Bool) : Prop :=
  admitted = true ∧ ∃ p, (oracleAttach db r).2 = .ok p

/-- An `ATTACH` and what DuckDB does with its catalog.  No two databases have one name. -/
def attachEvent (db : Instance) (r : AttachRequest) (admitted : Bool) : Option Instance :=
  match oracleAttach db r, admitted with
  | (db', .ok p), true =>
    if db'.Attached r.name then none
    else some { db' with catalogs := db'.catalogs ++ [⟨r, p⟩] }
  | (db', _), _ => some db'

/-- `DETACH`: the catalog is destroyed, with its reference to the state. -/
def Instance.detach (db : Instance) (name : String) : Instance :=
  { db with catalogs := db.catalogs.filter fun c => lower c.request.name ≠ lower name }

/-- One event. -/
def aliasStep (db : Instance) : AliasEvent → Option Instance
  | .attach r admitted => attachEvent db r admitted
  | .detach name => some (db.detach name)
  | .oracleExecute text => some (db.executeConnectionString text).1
  | .oracleQuery text => some (db.queryConnectionString text).1

/-! ## The property and the condition -/

/-- **An alias names what is attached now**: it finds a state exactly if a database is
attached under it, in any letter case; then the connection string of the state is the one
of that `ATTACH`, and `oracle_execute` and `oracle_query` use it, whatever the name is. -/
structure AliasesExact (db : Instance) : Prop where
  found : ∀ a, (∃ p, (db.lookupByAlias a).2 = some p) ↔ db.Attached a
  own : ∀ a p, (db.lookupByAlias a).2 = some p →
    ∀ c ∈ db.catalogs, lower c.request.name = lower a →
      ∃ state, db.states[p]? = some state ∧
        c.request.connectionString = .ok state.connectionString
  used : ∀ a, ∀ c ∈ db.catalogs, lower c.request.name = lower a →
    c.request.connectionString = .ok (db.queryConnectionString a).2 ∧
      (db.executeConnectionString a).2 = some (db.queryConnectionString a).2

/-- A text with an `@` is taken for a connection string.  So a name has none, or is the
connection string itself in the one way to spell it. -/
def TakenAsName (name cs : String) : Prop :=
  '@' ∈ name.toList → ∀ a, lower a = lower name → a = cs

/-- The steps that keep the aliases exact.  The first `ATTACH` that gets as far as a
connection string succeeds, if it has a name, and its name is not taken for a connection
string; no later one does; and no attached database is detached. -/
def KeepsAliases (db : Instance) : AliasEvent → Prop
  | .attach r admitted => ∀ cs, r.connectionString = .ok cs →
      if db.storageInfo = none then
        (Succeeds db r admitted ↔ r.name ≠ "") ∧
          (Succeeds db r admitted → TakenAsName r.name cs)
      else ¬ Succeeds db r admitted
  | .detach name => ¬ db.Attached name
  | .oracleExecute _ => True
  | .oracleQuery _ => True

/-! ## The one state and the one entry -/

/-- Nothing has been made yet. -/
structure Unused (db : Instance) : Prop where
  storageInfo : db.storageInfo = none
  states : db.states = []
  aliases : db.aliases = fun _ => none
  catalogs : db.catalogs = []

/-- The state that the `ATTACH` of the name `name` made, with the connection string `cs`. -/
structure MadeBy (name cs : String) (db : Instance) : Prop where
  storageInfo : db.storageInfo = some 0
  states : ∃ state, db.states = [state] ∧ state.connectionString = cs
  aliases : db.aliases = fun key => if name ≠ "" ∧ key = lower name then some 0 else none

/-- The invariant of the runs. -/
def OneState (db : Instance) : Prop := Unused db ∨ ∃ name cs, MadeBy name cs db

theorem unused_start : Unused {} := ⟨rfl, rfl, rfl, rfl⟩

/-- The one entry is always good. -/
theorem MadeBy.lookupByAlias {name cs : String} {db : Instance} (h : MadeBy name cs db)
    (a : String) :
    db.lookupByAlias a = (db, if name ≠ "" ∧ lower a = lower name then some 0 else none) := by
  have halive : db.alive 0 = true := by simp [Instance.alive, h.storageInfo]
  unfold Instance.lookupByAlias
  rw [h.aliases]
  by_cases ha : name ≠ "" ∧ lower a = lower name
  · simp only [if_pos ha, halive, if_true]
  · simp only [if_neg ha]

/-- What a lookup finds. -/
theorem MadeBy.found_iff {name cs a : String} {db : Instance} {p : ℕ} (h : MadeBy name cs db) :
    (db.lookupByAlias a).2 = some p ↔ (name ≠ "" ∧ lower a = lower name) ∧ p = 0 := by
  rw [h.lookupByAlias]
  by_cases ha : name ≠ "" ∧ lower a = lower name
  · rw [if_pos ha, Option.some_inj]
    exact ⟨fun hp => ⟨ha, hp.symm⟩, fun hp => hp.2.symm⟩
  · rw [if_neg ha]
    exact ⟨fun hp => absurd hp (by simp), fun hp => absurd hp.1 ha⟩

theorem Unused.lookupByAlias {db : Instance} (h : Unused db) (a : String) :
    db.lookupByAlias a = (db, none) := by
  unfold Instance.lookupByAlias
  rw [h.aliases]

/-- A lookup changes nothing. -/
theorem OneState.lookup_fst {db : Instance} (h : OneState db) (a : String) :
    (db.lookupByAlias a).1 = db := by
  rcases h with h | ⟨name, cs, h⟩
  · rw [h.lookupByAlias]
  · rw [h.lookupByAlias]

theorem OneState.queryConnectionString_fst {db : Instance} (h : OneState db) (text : String) :
    (db.queryConnectionString text).1 = db := by
  have hlookup := h.lookup_fst text
  unfold Instance.queryConnectionString
  split
  · rfl
  · split <;> next heq => rw [heq] at hlookup; exact hlookup

theorem OneState.executeConnectionString_fst {db : Instance} (h : OneState db) (text : String) :
    (db.executeConnectionString text).1 = db := by
  unfold Instance.executeConnectionString
  split
  · rfl
  · exact h.queryConnectionString_fst text

theorem Unused.aliasesExact {db : Instance} (h : Unused db) : AliasesExact db where
  found a := by
    rw [h.lookupByAlias, Instance.Attached, h.catalogs]
    simp
  own a p hp := by
    rw [h.lookupByAlias] at hp
    cases hp
  used a c hc := by
    rw [h.catalogs] at hc
    cases hc

theorem toLower_eq_at_iff (c : Char) : c.toLower = '@' ↔ c = '@' := by
  constructor
  · intro h
    unfold Char.toLower at h
    split at h
    · next hupper =>
      -- what a capital becomes is a letter
      have hval := congrArg (fun d : Char => d.val.toNat) h
      simp only [UInt32.toNat_add] at hval
      have hle : c.toNat ≤ 90 := UInt32.le_iff_toNat_le.mp hupper.2
      have hge : 65 ≤ c.toNat := UInt32.le_iff_toNat_le.mp hupper.1
      simp at hval
      omega
    · exact h
  · rintro rfl
    rfl

/-- An `@` is in a name or in none of its spellings. -/
theorem at_mem_lower_iff (s : String) : '@' ∈ (lower s).toList ↔ '@' ∈ s.toList := by
  rw [lower, String.toList_ofList, List.mem_map]
  constructor
  · rintro ⟨c, hc, hlower⟩
    exact (toLower_eq_at_iff c).mp hlower ▸ hc
  · exact fun h => ⟨'@', h, rfl⟩

theorem at_mem_iff_of_lower_eq {a b : String} (h : lower a = lower b) :
    '@' ∈ a.toList ↔ '@' ∈ b.toList := by
  rw [← at_mem_lower_iff, h, at_mem_lower_iff]

theorem Instance.queryConnectionString_of_at (db : Instance) {a : String} (h : '@' ∈ a.toList) :
    db.queryConnectionString a = (db, a) := if_pos h

/-- The entry leads to the connection string of the state. -/
theorem MadeBy.queryConnectionString {name cs a : String} {db : Instance} (h : MadeBy name cs db)
    (hat : '@' ∉ a.toList) (ha : name ≠ "" ∧ lower a = lower name) :
    (db.queryConnectionString a).2 = cs := by
  obtain ⟨state, hstates, rfl⟩ := h.states
  unfold Instance.queryConnectionString
  rw [if_neg hat, h.lookupByAlias, if_pos ha]
  simp only [hstates, List.getElem?_cons_zero, Option.map_some, Option.getD_some]

theorem lower_eq_empty_iff {s : String} : lower s = "" ↔ s = "" := by
  constructor
  · intro h
    have hlist := congrArg String.toList h
    rw [lower, String.toList_ofList] at hlist
    exact String.toList_eq_nil_iff.mp (List.map_eq_nil_iff.mp hlist)
  · rintro rfl
    rfl

/-- **When the one entry is right**: what is attached is attached under its name, which is
taken as a name, and by an `ATTACH` with the connection string of the state; and something
is, if there is an entry. -/
theorem MadeBy.aliasesExact_iff {name cs : String} {db : Instance} (h : MadeBy name cs db) :
    AliasesExact db ↔ (name ≠ "" → db.Attached name) ∧ ∀ c ∈ db.catalogs,
      name ≠ "" ∧ lower c.request.name = lower name ∧ c.request.connectionString = .ok cs ∧
        TakenAsName name cs := by
  obtain ⟨state, hstates, hcs⟩ := h.states
  have hget : db.states[0]? = some state := by
    rw [hstates]
    rfl
  constructor
  · intro hexact
    constructor
    · intro hname
      exact (hexact.found name).mp ⟨0, h.found_iff.mpr ⟨⟨hname, rfl⟩, rfl⟩⟩
    · intro c hc
      obtain ⟨p, hp⟩ := (hexact.found c.request.name).mpr ⟨c, hc, rfl⟩
      obtain ⟨⟨hname, hsame⟩, rfl⟩ := h.found_iff.mp hp
      obtain ⟨state', hstate', hown⟩ := hexact.own _ _ hp c hc rfl
      obtain rfl := Option.some.inj (hget.symm.trans hstate')
      refine ⟨hname, hsame, hcs ▸ hown, fun hat a ha => ?_⟩
      have hused := (hexact.used a c hc (hsame.trans ha.symm)).1
      rw [db.queryConnectionString_of_at ((at_mem_iff_of_lower_eq ha).mpr hat), hown] at hused
      exact (Except.ok.inj hused).symm.trans hcs
  · rintro ⟨hattached, hall⟩
    constructor
    · intro a
      constructor
      · rintro ⟨p, hp⟩
        obtain ⟨⟨hname, ha⟩, -⟩ := h.found_iff.mp hp
        obtain ⟨c, hc, hsame⟩ := hattached hname
        exact ⟨c, hc, hsame.trans ha.symm⟩
      · rintro ⟨c, hc, ha⟩
        obtain ⟨hname, hsame, -, -⟩ := hall c hc
        exact ⟨0, h.found_iff.mpr ⟨⟨hname, ha.symm.trans hsame⟩, rfl⟩⟩
    · intro a p hp c hc _
      obtain ⟨-, rfl⟩ := h.found_iff.mp hp
      exact ⟨state, hget, hcs.symm ▸ (hall c hc).2.2.1⟩
    · intro a c hc ha
      obtain ⟨hname, hsame, hown, htaken⟩ := hall c hc
      have hlower : lower a = lower name := ha.symm.trans hsame
      have hquery : (db.queryConnectionString a).2 = cs := by
        by_cases hat : '@' ∈ a.toList
        · rw [db.queryConnectionString_of_at hat]
          exact htaken ((at_mem_iff_of_lower_eq hlower).mp hat) a hlower
        · exact h.queryConnectionString hat ⟨hname, hlower⟩
      have hempty : a ≠ "" := by
        rw [ne_eq, ← lower_eq_empty_iff, ← ha, hsame, lower_eq_empty_iff]
        exact hname
      refine ⟨hquery.symm ▸ hown, ?_⟩
      rw [Instance.executeConnectionString, if_neg hempty]

/-! ## What an ATTACH makes -/

/-- Once there is a state, an `ATTACH` applies its options to it, and no more. -/
theorem MadeBy.of_sharedState {name cs cs' : String} {db : Instance} {r : AttachRequest}
    (hr : r.connectionString = .ok cs') (hzero : (db.sharedState cs' r.name).2 = 0)
    (h : MadeBy name cs (db.sharedState cs' r.name).1) :
    MadeBy name cs (oracleAttach db r).1 ∧
      (oracleAttach db r).1.catalogs = (db.sharedState cs' r.name).1.catalogs := by
  obtain ⟨state, hstates, hcs⟩ := h.states
  have hget : (db.sharedState cs' r.name).1.states[(db.sharedState cs' r.name).2]? =
      some state := by
    rw [hzero, hstates]
    rfl
  have hattach : (oracleAttach db r).1 =
      { (db.sharedState cs' r.name).1 with states := [(state.attach r.options r.oracle).1] } := by
    simp only [oracleAttach, hr, hget]
    rw [hzero, hstates]
    rfl
  have hsame := (sameServer_attach state r.options r.oracle).connectionString
  rw [hattach]
  exact ⟨⟨h.storageInfo, ⟨_, rfl, hsame.trans hcs⟩, h.aliases⟩, rfl⟩

/-- The first `ATTACH` with a connection string makes the state, and registers its name. -/
theorem Unused.sharedState {db : Instance} (h : Unused db) (cs name : String) :
    (db.sharedState cs name).2 = 0 ∧ MadeBy name cs (db.sharedState cs name).1 ∧
      (db.sharedState cs name).1.catalogs = db.catalogs := by
  have haliases : (db.register 0 name).aliases =
      fun key => if name ≠ "" ∧ key = lower name then some 0 else none := by
    funext key
    unfold Instance.register
    by_cases hname : name = ""
    · rw [if_pos hname, h.aliases, if_neg fun hkey => hkey.1 hname]
    · rw [if_neg hname, h.aliases]
      simp only [Function.update_apply, ne_eq, hname, not_false_eq_true, true_and]
  unfold Instance.sharedState
  rw [h.storageInfo, h.states]
  exact ⟨rfl, ⟨rfl, ⟨_, rfl, rfl⟩, haliases⟩, register_catalogs db 0 name⟩

theorem MadeBy.sharedState {name cs : String} {db : Instance} (h : MadeBy name cs db)
    (cs' name' : String) : db.sharedState cs' name' = (db, 0) := by
  unfold Instance.sharedState
  rw [h.storageInfo]

/-- **What an `ATTACH` with a connection string leaves**: the state and the entry of the
first one. -/
theorem Unused.madeBy {db : Instance} (h : Unused db) {r : AttachRequest} {cs : String}
    (hr : r.connectionString = .ok cs) :
    MadeBy r.name cs (oracleAttach db r).1 ∧ (oracleAttach db r).1.catalogs = [] := by
  obtain ⟨hzero, hmade, hcatalogs⟩ := h.sharedState cs r.name
  have hattach := MadeBy.of_sharedState hr hzero hmade
  exact ⟨hattach.1, hattach.2.trans (hcatalogs.trans h.catalogs)⟩

theorem MadeBy.madeBy {name cs cs' : String} {db : Instance} (h : MadeBy name cs db)
    {r : AttachRequest} (hr : r.connectionString = .ok cs') :
    MadeBy name cs (oracleAttach db r).1 ∧ (oracleAttach db r).1.catalogs = db.catalogs := by
  have hshared := h.sharedState cs' r.name
  have hattach := @MadeBy.of_sharedState name cs cs' db r hr
  rw [hshared] at hattach
  exact hattach rfl h

/-- Catalogs do not count for the state and the entry. -/
theorem MadeBy.with_catalogs {name cs : String} {db : Instance} (h : MadeBy name cs db)
    (catalogs : List OracleCatalog) : MadeBy name cs { db with catalogs := catalogs } :=
  ⟨h.storageInfo, h.states, h.aliases⟩

/-- What DuckDB does with the catalog. -/
theorem of_attachEvent {db t : Instance} {r : AttachRequest} {admitted : Bool}
    (h : attachEvent db r admitted = some t) :
    (Succeeds db r admitted ∧ ¬ (oracleAttach db r).1.Attached r.name ∧
      ∃ p, t = { (oracleAttach db r).1 with
        catalogs := (oracleAttach db r).1.catalogs ++ [⟨r, p⟩] }) ∨
    (¬ Succeeds db r admitted ∧ t = (oracleAttach db r).1) := by
  unfold attachEvent at h
  unfold Succeeds
  cases hout : oracleAttach db r with
  | mk db' out =>
    rw [hout] at h
    cases out with
    | error e =>
      cases admitted <;> exact Or.inr ⟨by simp, (Option.some.inj h).symm⟩
    | ok p =>
      cases admitted with
      | false => exact Or.inr ⟨by simp, (Option.some.inj h).symm⟩
      | true =>
        simp only at h
        split at h
        · cases h
        · next hnew => exact Or.inl ⟨⟨rfl, p, rfl⟩, hnew, p, (Option.some.inj h).symm⟩

/-- An `ATTACH` that resolves no connection string changes nothing. -/
theorem of_attachEvent_error {db t : Instance} {r : AttachRequest} {admitted : Bool} {e : String}
    (hr : r.connectionString = .error e) (h : attachEvent db r admitted = some t) : t = db := by
  have hout : oracleAttach db r = (db, .error e) := oracleAttach_of_error hr
  unfold attachEvent at h
  rw [hout] at h
  exact (Option.some.inj h).symm

/-! ## Steps and runs -/

/-- The invariant of a step. -/
theorem OneState.step {db t : Instance} {e : AliasEvent} (h : OneState db)
    (hstep : aliasStep db e = some t) : OneState t := by
  cases e with
  | attach r admitted =>
    cases hr : r.connectionString with
    | error e => rwa [of_attachEvent_error hr hstep]
    | ok cs =>
      have hmade : ∃ name cs', MadeBy name cs' (oracleAttach db r).1 := by
        rcases h with h | ⟨name, cs', h⟩
        · exact ⟨_, _, (h.madeBy hr).1⟩
        · exact ⟨_, _, (h.madeBy hr).1⟩
      obtain ⟨name, cs', hmade⟩ := hmade
      rcases of_attachEvent hstep with ⟨-, -, p, rfl⟩ | ⟨-, rfl⟩
      · exact Or.inr ⟨name, cs', hmade.with_catalogs _⟩
      · exact Or.inr ⟨name, cs', hmade⟩
  | detach name =>
    obtain rfl := Option.some.inj hstep
    rcases h with h | ⟨name', cs, h⟩
    · refine Or.inl ⟨h.storageInfo, h.states, h.aliases, ?_⟩
      rw [Instance.detach, h.catalogs]
      rfl
    · exact Or.inr ⟨name', cs, h.with_catalogs _⟩
  | oracleExecute text =>
    obtain rfl := Option.some.inj hstep
    rwa [h.executeConnectionString_fst]
  | oracleQuery text =>
    obtain rfl := Option.some.inj hstep
    rwa [h.queryConnectionString_fst]

/-- The first `ATTACH` with a connection string. -/
theorem Unused.aliasesExact_attach_iff {db t : Instance} {r : AttachRequest} {admitted : Bool}
    {cs : String} (h : Unused db) (hr : r.connectionString = .ok cs)
    (hstep : attachEvent db r admitted = some t) :
    AliasesExact t ↔ (Succeeds db r admitted ↔ r.name ≠ "") ∧
      (Succeeds db r admitted → TakenAsName r.name cs) := by
  obtain ⟨hmade, hcatalogs⟩ := h.madeBy hr
  rcases of_attachEvent hstep with ⟨hs, -, p, rfl⟩ | ⟨hs, rfl⟩
  · rw [(hmade.with_catalogs _).aliasesExact_iff, hcatalogs, List.nil_append]
    constructor
    · rintro ⟨-, hall⟩
      obtain ⟨hname, -, -, htaken⟩ := hall _ List.mem_cons_self
      exact ⟨⟨fun _ => hname, fun _ => hs⟩, fun _ => htaken⟩
    · rintro ⟨hname, htaken⟩
      refine ⟨fun _ => ⟨_, List.mem_cons_self, rfl⟩, fun c hc => ?_⟩
      obtain rfl := List.mem_singleton.mp hc
      exact ⟨hname.mp hs, rfl, hr, htaken hs⟩
  · rw [hmade.aliasesExact_iff]
    constructor
    · rintro ⟨hattached, -⟩
      refine ⟨⟨fun hsucceeds => absurd hsucceeds hs, fun hname => ?_⟩,
        fun hsucceeds => absurd hsucceeds hs⟩
      obtain ⟨c, hc, -⟩ := hattached hname
      rw [hcatalogs] at hc
      cases hc
    · rintro ⟨hname, -⟩
      refine ⟨fun h => absurd (hname.mpr h) hs, fun c hc => ?_⟩
      rw [hcatalogs] at hc
      cases hc

/-- A later one. -/
theorem MadeBy.aliasesExact_attach_iff {name cs cs' : String} {db t : Instance}
    {r : AttachRequest} {admitted : Bool} (h : MadeBy name cs db) (hexact : AliasesExact db)
    (hr : r.connectionString = .ok cs') (hstep : attachEvent db r admitted = some t) :
    AliasesExact t ↔ ¬ Succeeds db r admitted := by
  obtain ⟨hmade, hcatalogs⟩ := h.madeBy hr
  have hbefore := h.aliasesExact_iff.mp hexact
  rcases of_attachEvent hstep with ⟨hs, hnew, p, rfl⟩ | ⟨hs, rfl⟩
  · rw [(hmade.with_catalogs _).aliasesExact_iff]
    constructor
    · -- the one entry is that of the database that was there before
      rintro ⟨-, hall⟩
      obtain ⟨hname, hsame, -⟩ := hall ⟨r, p⟩ (List.mem_append_right _ List.mem_cons_self)
      obtain ⟨c, hc, hold⟩ := hbefore.1 hname
      exact absurd ⟨c, hcatalogs ▸ hc, hold.trans hsame.symm⟩ hnew
    · exact fun hfails => absurd hs hfails
  · rw [hmade.aliasesExact_iff, Instance.Attached, hcatalogs]
    exact ⟨fun _ => hs, fun _ => hbefore⟩

/-- A `DETACH`: the entry stays. -/
theorem OneState.aliasesExact_detach_iff {db : Instance} (h : OneState db)
    (hexact : AliasesExact db) (name : String) :
    AliasesExact (db.detach name) ↔ ¬ db.Attached name := by
  constructor
  · rintro hafter ⟨c, hc, hname⟩
    rcases h with h | ⟨first, cs, h⟩
    · rw [h.catalogs] at hc
      cases hc
    · obtain ⟨hfirst, hsame, -⟩ := (h.aliasesExact_iff.mp hexact).2 c hc
      obtain ⟨c', hc', hsame'⟩ := ((h.with_catalogs _).aliasesExact_iff.mp hafter).1 hfirst
      have hkept := (List.mem_filter.mp hc').2
      rw [decide_eq_true_eq] at hkept
      exact hkept (hsame'.trans (hsame.symm.trans hname))
  · intro hnone
    have hkeep : db.detach name = db := by
      have hall : db.catalogs.filter (fun c => lower c.request.name ≠ lower name) =
          db.catalogs := by
        rw [List.filter_eq_self]
        exact fun c hc => decide_eq_true fun hname => hnone ⟨c, hc, hname⟩
      rw [Instance.detach, hall]
    rwa [hkeep]

/-- **A step keeps the aliases exact exactly if it is admitted.** -/
theorem aliasesExact_step_iff {db t : Instance} {e : AliasEvent} (h : OneState db)
    (hexact : AliasesExact db) (hstep : aliasStep db e = some t) :
    AliasesExact t ↔ KeepsAliases db e := by
  cases e with
  | attach r admitted =>
    cases hr : r.connectionString with
    | error e =>
      rw [of_attachEvent_error hr hstep]
      refine ⟨fun _ cs hcs => ?_, fun _ => hexact⟩
      rw [hr] at hcs
      cases hcs
    | ok cs =>
      have hcond : KeepsAliases db (.attach r admitted) ↔
          if db.storageInfo = none then
            (Succeeds db r admitted ↔ r.name ≠ "") ∧
              (Succeeds db r admitted → TakenAsName r.name cs)
          else ¬ Succeeds db r admitted :=
        ⟨fun hall => hall cs hr, fun hone cs' hcs' => by
          obtain rfl := Except.ok.inj (hr.symm.trans hcs')
          exact hone⟩
      rw [hcond]
      rcases h with h | ⟨name, cs', h⟩
      · rw [if_pos h.storageInfo]
        exact h.aliasesExact_attach_iff hr hstep
      · rw [if_neg (by rw [h.storageInfo]; simp)]
        exact h.aliasesExact_attach_iff hexact hr hstep
  | detach name =>
    obtain rfl := Option.some.inj hstep
    exact h.aliasesExact_detach_iff hexact name
  | oracleExecute text =>
    obtain rfl := Option.some.inj hstep
    rw [h.executeConnectionString_fst]
    exact ⟨fun _ => trivial, fun _ => hexact⟩
  | oracleQuery text =>
    obtain rfl := Option.some.inj hstep
    rw [h.queryConnectionString_fst]
    exact ⟨fun _ => trivial, fun _ => hexact⟩

/-- **In which runs an alias names what is attached now.**  In any run of `ATTACH`es,
successful or not, of `DETACH`es and of calls with an alias, the aliases are exact in
every state reached exactly if the first `ATTACH` that gets a connection string succeeds
(fails, if it has no name) under a name that is not taken for a connection string, no later
one does, and no attached database is detached. -/
theorem aliases_exact_iff {es : List AliasEvent} {db : Instance}
    (h : run aliasStep {} es = some db) :
    (∀ t, Reached aliasStep {} es t → AliasesExact t) ↔ Guarded aliasStep KeepsAliases {} es :=
  guarded_iff_reached (fun _ _ _ => OneState.step) (fun _ _ _ => aliasesExact_step_iff)
    (Or.inl unused_start) unused_start.aliasesExact h

/-- One database, and calls on it. -/
def oneDatabase : List AliasEvent :=
  [.attach { name := "ora", path := "scott/tiger@db1" } true, .oracleExecute "ORA",
    .oracleQuery "ora"]

theorem aliases_exact_oneDatabase :
    ∃ t, run aliasStep {} oneDatabase = some t ∧ AliasesExact t := by
  have hguarded : Guarded aliasStep KeepsAliases {} oneDatabase := by
    refine Guarded.cons ?_ fun _ _ =>
      Guarded.cons trivial fun _ _ => Guarded.cons trivial fun _ _ => Guarded.nil
    intro cs _
    rw [if_pos rfl]
    refine ⟨⟨fun _ => by decide, fun _ => ⟨rfl, 0, rfl⟩⟩, fun _ hat => ?_⟩
    exact absurd hat (by decide)
  exact ⟨_, rfl, (@aliases_exact_iff oneDatabase _ rfl).mpr hguarded _ (Reached.of_run rfl)⟩

/-- **An alias of the past**: after `ATTACH`, `DETACH` and an `ATTACH` of another server
under the same name, the name leads `oracle_execute` to the first server. -/
theorem sameName_not_exact :
    ∃ t, run aliasStep {} [.attach { name := "ora", path := "scott/tiger@db1" } true,
        .detach "ora", .attach { name := "ora", path := "hr/hr@db2" } true] = some t ∧
      (t.executeConnectionString "ora").2 = some "scott/tiger@db1" ∧ ¬ AliasesExact t := by
  refine ⟨_, rfl, by decide, fun hexact => ?_⟩
  obtain ⟨state, hstate, hown⟩ := hexact.own "ora" 0 rfl _ List.mem_cons_self rfl
  obtain rfl := Option.some.inj hstate
  exact absurd (Except.ok.inj hown) (by decide)

end Catalog
end DuckdbOracle
