import DuckdbOracle.Catalog.QueryTexts
import DuckdbOracle.Foundations.StepRuns

/-!
# Are the metadata caches transparent?

`ListSchemas`, `ListTables` and `ListObjects` ask Oracle once and answer from a cache from
then on, until the caches are cleared.  The dictionary does not change here, but the
settings do: whether schemas are loaded lazily, whether `main` is among them, and how many
objects are listed.  No cache is keyed by settings and `ApplyOptions` clears none, so that
a list is the one that was asked for under the settings of that time (`lists_as_filled`).
The guide has the caches cleared after a setting is changed.

The key of `object_cache` is put together from the schema and the object types, with a
colon in between, and two requests with a colon inside may have one key.  When exactly the
lists are those of empty caches, under the settings in force, is `transparent_iff`.
-/

namespace DuckdbOracle
namespace Catalog

open Duckdb OracleCatalogState StepRuns

/-! ## The three listings -/

/-- The names in the rows of an answer; rows without a cell are skipped. -/
def namesIn (rows : List (List String)) : List String := rows.filterMap List.head?

/-- What is listed. -/
inductive Listing where
  | schemas
  | tables (schema : String)
  | objects (schema objectTypes : String)

namespace Asking

/-- The current schema in `ListSchemas`: it is asked for when schemas are loaded lazily and
it is not known. -/
def currentSchema (state : OracleCatalogState) (ask : String → QueryAnswer) :
    Except String String :=
  if state.settings.lazySchemaLoading = true ∧ state.currentSchema = "" then
    (ask currentSchemaQuery).map fun rows => (firstCell rows).getD ""
  else .ok state.currentSchema

/-- `ListSchemas`. -/
def listSchemas (state : OracleCatalogState) (connect : Except String Unit)
    (ask : String → QueryAnswer) : OracleCatalogState × Except String (List String) :=
  if state.schemaCache ≠ [] then (state, .ok state.schemaCache)
  else
    match state.ensureConnection connect with
    | (state, .error e) => (state, .error e)
    | (state, .ok ()) =>
      match currentSchema state ask with
      | .error e => (state, .error e)
      | .ok current =>
        if state.settings.lazySchemaLoading = true ∧ current ≠ "" then
          let schemas := (if state.settings.useCurrentSchema then ["main"] else []) ++ [current]
          ({ state with currentSchema := current, schemaCache := schemas }, .ok schemas)
        else
          match ask listSchemasQuery with
          | .error e => ({ state with currentSchema := current }, .error e)
          | .ok rows =>
            ({ state with currentSchema := current, schemaCache := namesIn rows },
              .ok (namesIn rows))

/-- `ListTables`. -/
def listTables (state : OracleCatalogState) (schema : String) (connect : Except String Unit)
    (ask : String → QueryAnswer) : OracleCatalogState × Except String (List String) :=
  match state.tableCache.lookup schema with
  | some tables => (state, .ok tables)
  | none =>
    match state.ensureConnection connect with
    | (state, .error e) => (state, .error e)
    | (state, .ok ()) =>
      if schema = "" then (state, .ok [])
      else
        match ask (listTablesQuery schema) with
        | .error e => (state, .error e)
        | .ok rows =>
          ({ state with tableCache := (schema, namesIn rows) :: state.tableCache },
            .ok (namesIn rows))

/-- `ListObjects`. -/
def listObjects (state : OracleCatalogState) (schema objectTypes : String)
    (connect : Except String Unit) (ask : String → QueryAnswer) :
    OracleCatalogState × Except String (List String) :=
  match state.objectCache.lookup (cacheKey schema objectTypes) with
  | some objects => (state, .ok objects)
  | none =>
    match state.ensureConnection connect with
    | (state, .error e) => (state, .error e)
    | (state, .ok ()) =>
      match ask (listObjectsQuery state.settings.metadataResultLimit schema objectTypes) with
      | .error e => (state, .error e)
      | .ok rows =>
        ({ state with
           objectCache := (cacheKey schema objectTypes, namesIn rows) :: state.objectCache },
          .ok (namesIn rows))

def list (state : OracleCatalogState) (listing : Listing) (connect : Except String Unit)
    (ask : String → QueryAnswer) : OracleCatalogState × Except String (List String) :=
  match listing with
  | .schemas => listSchemas state connect ask
  | .tables schema => listTables state schema connect ask
  | .objects schema objectTypes => listObjects state schema objectTypes connect ask

end Asking

/-! ## Runs -/

/-- What the dictionary answers to a query, unless this query fails at this call. -/
def answerOr (answers : String → QueryAnswer) (faults : String → Option String) (query : String) :
    QueryAnswer :=
  match faults query with
  | some e => .error e
  | none => answers query

/-- A call of one of the methods.  Those that talk to Oracle may fail to connect, and each
of their queries may fail. -/
inductive CacheCall where
  | detectCurrentSchema (connect : Except String Unit) (faults : String → Option String)
  | list (listing : Listing) (connect : Except String Unit) (faults : String → Option String)
  | applyOptions (options : List (String × Value))
  | clearCaches

/-- The state after a call, and its outcome, which is a list if the call lists. -/
def CacheCall.apply (answers : String → QueryAnswer) (state : OracleCatalogState) :
    CacheCall → OracleCatalogState × Except String (Option (List String))
  | .detectCurrentSchema connect faults =>
    let result := state.detectCurrentSchema connect (answerOr answers faults currentSchemaQuery)
    (result.1, result.2.map fun _ => none)
  | .list listing connect faults =>
    let result := Asking.list state listing connect (answerOr answers faults)
    (result.1, result.2.map some)
  | .applyOptions options =>
    let result := state.applyOptions options
    (result.1, result.2.map fun _ => none)
  | .clearCaches => (state.clearCaches, .ok none)

/-- Where a list is cached. -/
inductive CachePlace where
  | schemas
  | tables (schema : String)
  | objects (key : String)
  deriving DecidableEq

def Listing.place : Listing → CachePlace
  | .schemas => .schemas
  | .tables schema => .tables schema
  | .objects schema objectTypes => .objects (cacheKey schema objectTypes)

/-- The list that is cached at a place. -/
def cachedAt (state : OracleCatalogState) : CachePlace → Option (List String)
  | .schemas => if state.schemaCache ≠ [] then some state.schemaCache else none
  | .tables schema => state.tableCache.lookup schema
  | .objects key => state.objectCache.lookup key

/-- A call that has asked for a list: what it lists, and the settings at that time. -/
structure Filling where
  listing : Listing
  settings : OracleSettings

/-- A catalog state, and for every place the last call that found nothing there. -/
structure CacheWorld where
  state : OracleCatalogState
  filledBy : CachePlace → Option Filling := fun _ => none

/-- What a call is noted as. -/
def CacheWorld.note (w : CacheWorld) : CacheCall → CachePlace → Option Filling
  | .list listing _ _ =>
    if (cachedAt w.state listing.place).isSome then w.filledBy
    else Function.update w.filledBy listing.place (some ⟨listing, w.state.settings⟩)
  | _ => w.filledBy

/-- One call.  Every call can be made at any time. -/
def cacheStep (answers : String → QueryAnswer) (w : CacheWorld) (call : CacheCall) :
    Option CacheWorld :=
  some { state := (call.apply answers w.state).1, filledBy := w.note call }

/-- Nothing has been called yet. -/
def CacheWorld.start (connectionString : String) (settings : OracleSettings) : CacheWorld where
  state := { connectionString := connectionString, settings := settings }

/-! ## The properties -/

/-- What a listing gives with all caches empty, under the given settings. -/
def listFresh (answers : String → QueryAnswer) (state : OracleCatalogState)
    (settings : OracleSettings) (listing : Listing) : Except String (List String) :=
  (Asking.list { state.clearCaches with settings := settings } listing (.ok ()) answers).2

/-- **A call is transparent**: if it returns a list, it is the one that it would give with
all caches empty, and if it throws, the caches are as they were. -/
structure Transparent (answers : String → QueryAnswer) (w : CacheWorld) (call : CacheCall) :
    Prop where
  lists : ∀ listing connect faults, call = .list listing connect faults →
    ∀ list, (call.apply answers w.state).2 = .ok (some list) →
      listFresh answers w.state w.state.settings listing = .ok list
  throws : ∀ e, (call.apply answers w.state).2 = .error e →
    SameCaches w.state (call.apply answers w.state).1

/-- **A call lists what was asked for**: what it would give with all caches empty under the
settings in force, or, if its list was cached by such a call, under those in force then. -/
structure ListsAsFilled (answers : String → QueryAnswer) (w : CacheWorld) (call : CacheCall) :
    Prop where
  uncached : ∀ listing connect faults, call = .list listing connect faults →
    cachedAt w.state listing.place = none →
    ∀ list, (call.apply answers w.state).2 = .ok (some list) →
      listFresh answers w.state w.state.settings listing = .ok list
  cached : ∀ listing connect faults, call = .list listing connect faults →
    cachedAt w.state listing.place ≠ none →
    ∃ filling, w.filledBy listing.place = some filling ∧ (filling.listing = listing →
      ∀ list, (call.apply answers w.state).2 = .ok (some list) →
        listFresh answers w.state filling.settings listing = .ok list)
  throws : ∀ e, (call.apply answers w.state).2 = .error e →
    SameCaches w.state (call.apply answers w.state).1

/-! ## What is asked for -/

/-- What Oracle says that the current schema is; nothing is the empty name. -/
def schemaAsked (ask : String → QueryAnswer) : Except String String :=
  (ask currentSchemaQuery).map fun rows => (firstCell rows).getD ""

/-- What a listing asks for under given settings, when nothing is known. -/
def listAsked (ask : String → QueryAnswer) (settings : OracleSettings) :
    Listing → Except String (List String)
  | .schemas =>
    match if settings.lazySchemaLoading then schemaAsked ask else .ok "" with
    | .error e => .error e
    | .ok current =>
      if settings.lazySchemaLoading = true ∧ current ≠ "" then
        .ok ((if settings.useCurrentSchema then ["main"] else []) ++ [current])
      else (ask listSchemasQuery).map namesIn
  | .tables schema =>
    if schema = "" then .ok [] else (ask (listTablesQuery schema)).map namesIn
  | .objects schema objectTypes =>
    (ask (listObjectsQuery settings.metadataResultLimit schema objectTypes)).map namesIn

/-- The current schema that is known is that of Oracle. -/
def KnownSchema (answers : String → QueryAnswer) (current : String) : Prop :=
  current ≠ "" → schemaAsked answers = .ok current

/-- **An uncached listing**: what it leaves in the state, and its outcome. -/
structure Lists (answers : String → QueryAnswer) (state : OracleCatalogState) (listing : Listing)
    (result : OracleCatalogState × Except String (List String)) : Prop where
  settings : result.1.settings = state.settings
  known : KnownSchema answers result.1.currentSchema
  other : ∀ place, place ≠ listing.place → cachedAt result.1 place = cachedAt state place
  own : ∀ list, cachedAt result.1 listing.place = some list →
    listAsked answers state.settings listing = .ok list
  returns : ∀ list, result.2 = .ok list →
    listAsked answers state.settings listing = .ok list
  throws : ∀ e, result.2 = .error e → SameCaches state result.1

theorem cachedAt_eq {state state' : OracleCatalogState} (h : SameCaches state state')
    (place : CachePlace) : cachedAt state' place = cachedAt state place := by
  cases place with
  | schemas => rw [cachedAt, cachedAt, h.schemaCache]
  | tables schema => rw [cachedAt, cachedAt, h.tableCache]
  | objects key => rw [cachedAt, cachedAt, h.objectCache]

/-- A call that throws leaves nothing. -/
theorem lists_of_error {answers : String → QueryAnswer} {state state' : OracleCatalogState}
    {listing : Listing} (hknown : KnownSchema answers state.currentSchema)
    (hcached : cachedAt state listing.place = none) (hsettings : state'.settings = state.settings)
    (hsame : SameCaches state state') (e : String) :
    Lists answers state listing (state', .error e) where
  settings := hsettings
  known := by
    rw [hsame.currentSchema]
    exact hknown
  other place _ := cachedAt_eq hsame place
  own list hlist := by
    rw [cachedAt_eq hsame, hcached] at hlist
    cases hlist
  returns list hlist := nomatch hlist
  throws _ _ := hsame

theorem answerOr_eq_ok {answers : String → QueryAnswer} {faults : String → Option String}
    {query : String} {rows : List (List String)} (h : answerOr answers faults query = .ok rows) :
    answers query = .ok rows := by
  unfold answerOr at h
  split at h
  · cases h
  · exact h

/-- A call that returns leaves its list, or nothing. -/
theorem lists_of_ok {answers : String → QueryAnswer} {state state' : OracleCatalogState}
    {listing : Listing} {names : List String}
    (hasked : listAsked answers state.settings listing = .ok names)
    (hsettings : state'.settings = state.settings)
    (hknown : KnownSchema answers state'.currentSchema)
    (hother : ∀ place, place ≠ listing.place → cachedAt state' place = cachedAt state place)
    (hown : ∀ list, cachedAt state' listing.place = some list → list = names) :
    Lists answers state listing (state', .ok names) where
  settings := hsettings
  known := hknown
  other := hother
  own _ hlist := hown _ hlist ▸ hasked
  returns _ hlist := Except.ok.inj hlist ▸ hasked
  throws _ he := nomatch he

theorem lookup_cons_of_ne {key key' : String} {names : List String}
    {cache : List (String × List String)} (h : key' ≠ key) :
    List.lookup key' ((key, names) :: cache) = cache.lookup key' := by
  rw [List.lookup_cons, beq_false_of_ne h]

/-- What `ListSchemas` writes does not show at the other places. -/
theorem cachedAt_of_schemas_written {state connected : OracleCatalogState}
    (hsame : SameCaches state connected) (current : String) (schemas : List String)
    {place : CachePlace} (hplace : place ≠ .schemas) :
    cachedAt { connected with currentSchema := current, schemaCache := schemas } place =
      cachedAt state place := by
  rw [← cachedAt_eq hsame place]
  cases place with
  | schemas => exact absurd rfl hplace
  | tables schema => rfl
  | objects key => rfl

theorem eq_of_cachedAt_schemas {state : OracleCatalogState} {names : List String}
    (h : cachedAt state .schemas = some names) : names = state.schemaCache := by
  obtain ⟨-, hnames⟩ := Option.ite_none_right_eq_some.mp h
  exact (Option.some.inj hnames).symm

/-- All schemas are asked for when they are not loaded lazily, or none is the current one. -/
theorem listAsked_schemas {answers : String → QueryAnswer} {settings : OracleSettings}
    {current : String}
    (hlazy : settings.lazySchemaLoading = true → schemaAsked answers = .ok current)
    (hfound : ¬ (settings.lazySchemaLoading = true ∧ current ≠ "")) :
    listAsked answers settings .schemas = (answers listSchemasQuery).map namesIn := by
  rw [listAsked]
  cases hload : settings.lazySchemaLoading with
  | false =>
    rw [if_neg Bool.false_ne_true]
    exact if_neg (not_and_of_not_left _ Bool.false_ne_true)
  | true =>
    rw [if_pos rfl, hlazy hload]
    exact if_neg fun h => hfound ⟨hload, h.2⟩

section

variable {answers : String → QueryAnswer} {state : OracleCatalogState}
  (hknown : KnownSchema answers state.currentSchema) (connect : Except String Unit)
  (faults : String → Option String)

include hknown

theorem lists_listTables {schema : String} (hcached : state.tableCache.lookup schema = none) :
    Lists answers state (.tables schema)
      (Asking.listTables state schema connect (answerOr answers faults)) := by
  obtain ⟨connected, ⟨-, hsettings, -⟩, hsame, hconnect⟩ := exists_ensureConnection state connect
  have hthrown := @lists_of_error _ _ connected (.tables schema) hknown hcached hsettings hsame
  have hknown' : KnownSchema answers connected.currentSchema := by
    rw [hsame.currentSchema]
    exact hknown
  rw [Asking.listTables, hcached]
  rcases hconnect with ⟨e, hconnect⟩ | hconnect
  · rw [hconnect]
    exact hthrown e
  rw [hconnect]
  dsimp only
  by_cases hempty : schema = ""
  · rw [if_pos hempty]
    refine lists_of_ok (if_pos hempty) hsettings hknown' (fun place _ => cachedAt_eq hsame place)
      fun names hnames => ?_
    rw [cachedAt_eq hsame] at hnames
    exact absurd (hcached.symm.trans hnames) (by simp)
  · rw [if_neg hempty]
    cases hquery : answerOr answers faults (listTablesQuery schema) with
    | error e => exact hthrown e
    | ok rows =>
      refine lists_of_ok ?_ hsettings hknown' (fun place hplace => ?_) fun names hnames => ?_
      · rw [listAsked, if_neg hempty, answerOr_eq_ok hquery]
        rfl
      · rw [← cachedAt_eq hsame place]
        cases place with
        | schemas => rfl
        | objects key => rfl
        | tables schema' => exact lookup_cons_of_ne fun h => hplace (congrArg CachePlace.tables h)
      · rw [Listing.place, cachedAt, List.lookup_cons_self] at hnames
        exact (Option.some.inj hnames).symm

theorem lists_listObjects {schema objectTypes : String}
    (hcached : state.objectCache.lookup (cacheKey schema objectTypes) = none) :
    Lists answers state (.objects schema objectTypes)
      (Asking.listObjects state schema objectTypes connect (answerOr answers faults)) := by
  obtain ⟨connected, ⟨-, hsettings, -⟩, hsame, hconnect⟩ := exists_ensureConnection state connect
  have hthrown := @lists_of_error _ _ connected (.objects schema objectTypes) hknown hcached
    hsettings hsame
  rw [Asking.listObjects, hcached]
  rcases hconnect with ⟨e, hconnect⟩ | hconnect
  · rw [hconnect]
    exact hthrown e
  rw [hconnect]
  dsimp only
  cases hquery : answerOr answers faults
      (listObjectsQuery connected.settings.metadataResultLimit schema objectTypes) with
  | error e => exact hthrown e
  | ok rows =>
    refine lists_of_ok ?_ hsettings ?_ (fun place hplace => ?_) fun names hnames => ?_
    · rw [listAsked, ← hsettings, answerOr_eq_ok hquery]
      rfl
    · show KnownSchema answers connected.currentSchema
      rw [hsame.currentSchema]
      exact hknown
    · rw [← cachedAt_eq hsame place]
      cases place with
      | schemas => rfl
      | tables schema' => rfl
      | objects key => exact lookup_cons_of_ne fun h => hplace (congrArg CachePlace.objects h)
    · rw [Listing.place, cachedAt, List.lookup_cons_self] at hnames
      exact (Option.some.inj hnames).symm

/-- The current schema that `ListSchemas` goes on with. -/
theorem currentSchema_eq_ok {current : String}
    (h : Asking.currentSchema state (answerOr answers faults) = .ok current) :
    KnownSchema answers current ∧
      (state.settings.lazySchemaLoading = true → schemaAsked answers = .ok current) ∧
      (state.settings.lazySchemaLoading = false ∨ current = "" →
        current = state.currentSchema) := by
  unfold Asking.currentSchema at h
  by_cases hask : state.settings.lazySchemaLoading = true ∧ state.currentSchema = ""
  · rw [if_pos hask] at h
    cases hquery : answerOr answers faults currentSchemaQuery with
    | error e =>
      rw [hquery] at h
      cases h
    | ok rows =>
      rw [hquery] at h
      have hanswer : schemaAsked answers = .ok current := by
        rw [schemaAsked, answerOr_eq_ok hquery]
        exact h
      refine ⟨fun _ => hanswer, fun _ => hanswer, fun hor => ?_⟩
      rcases hor with hlazy | hempty
      · exact absurd (hask.1.symm.trans hlazy) (by decide)
      · rw [hempty, hask.2]
  · rw [if_neg hask] at h
    obtain rfl := Except.ok.inj h
    exact ⟨hknown, fun hlazy => hknown fun hempty => hask ⟨hlazy, hempty⟩, fun _ => rfl⟩

theorem lists_listSchemas (hcached : state.schemaCache = []) :
    Lists answers state .schemas
      (Asking.listSchemas state connect (answerOr answers faults)) := by
  obtain ⟨connected, ⟨-, hsettings, -⟩, hsame, hconnect⟩ := exists_ensureConnection state connect
  have hnone : cachedAt state .schemas = none := if_neg (not_not_intro hcached)
  have hthrown := @lists_of_error _ _ connected .schemas hknown hnone hsettings hsame
  rw [Asking.listSchemas, if_neg (not_not_intro hcached)]
  rcases hconnect with ⟨e, hconnect⟩ | hconnect
  · rw [hconnect]
    exact hthrown e
  rw [hconnect]
  dsimp only
  cases hcurrent : Asking.currentSchema connected (answerOr answers faults) with
  | error e => exact hthrown e
  | ok current =>
    obtain ⟨hknown', hlazy, hkept⟩ := currentSchema_eq_ok
      (by rw [hsame.currentSchema]; exact hknown) faults hcurrent
    dsimp only
    by_cases hfound : connected.settings.lazySchemaLoading = true ∧ current ≠ ""
    · rw [if_pos hfound]
      refine lists_of_ok ?_ hsettings hknown' (fun place => cachedAt_of_schemas_written hsame _ _)
        fun names hnames => eq_of_cachedAt_schemas hnames
      rw [listAsked, ← hsettings, if_pos hfound.1, hlazy hfound.1]
      exact if_pos hfound
    · rw [if_neg hfound]
      cases hquery : answerOr answers faults listSchemasQuery with
      | error e =>
        have hkeep : current = connected.currentSchema := by
          refine hkept ?_
          cases hload : connected.settings.lazySchemaLoading with
          | false => exact Or.inl rfl
          | true => exact Or.inr (by_contra fun hne => hfound ⟨hload, hne⟩)
        rw [hkeep]
        exact hthrown e
      | ok rows =>
        refine lists_of_ok ?_ hsettings hknown'
          (fun place => cachedAt_of_schemas_written hsame _ _)
          fun names hnames => eq_of_cachedAt_schemas hnames
        rw [← hsettings, listAsked_schemas hlazy hfound, answerOr_eq_ok hquery]
        rfl

/-- **What an uncached listing does.** -/
theorem lists_list {listing : Listing} (hcached : cachedAt state listing.place = none) :
    Lists answers state listing
      (Asking.list state listing connect (answerOr answers faults)) := by
  cases listing with
  | schemas =>
    refine lists_listSchemas hknown connect faults (by_contra fun hne => ?_)
    rw [Listing.place, cachedAt, if_pos hne] at hcached
    cases hcached
  | tables schema => exact lists_listTables hknown connect faults hcached
  | objects schema objectTypes => exact lists_listObjects hknown connect faults hcached

end

/-- A cached listing gives what is cached. -/
theorem list_of_cached {state : OracleCatalogState} {listing : Listing} {names : List String}
    (hcached : cachedAt state listing.place = some names) (connect : Except String Unit)
    (ask : String → QueryAnswer) :
    Asking.list state listing connect ask = (state, .ok names) := by
  cases listing with
  | schemas =>
    obtain ⟨hne, hnames⟩ := Option.ite_none_right_eq_some.mp hcached
    obtain rfl := Option.some.inj hnames
    exact if_pos hne
  | tables schema =>
    have hlookup : state.tableCache.lookup schema = some names := hcached
    rw [Asking.list, Asking.listTables, hlookup]
  | objects schema objectTypes =>
    have hlookup : state.objectCache.lookup (cacheKey schema objectTypes) = some names := hcached
    rw [Asking.list, Asking.listObjects, hlookup]

theorem ensureConnection_of_none {state : OracleCatalogState} (h : state.connection = none) :
    state.ensureConnection (.ok ()) =
      ({ state with connection := some state.connectionString }, .ok ()) := by
  have hdrop : state.dropUncached = state := by
    unfold dropUncached
    split
    · rfl
    · rw [← h]
  rw [ensureConnection, hdrop, openConnection, h]

/-- **A listing with all caches empty gives what it asks for.** -/
theorem list_of_empty {state : OracleCatalogState} (hconnection : state.connection = none)
    (hcurrent : state.currentSchema = "") (hschemas : state.schemaCache = [])
    (htables : state.tableCache = []) (hobjects : state.objectCache = [])
    (ask : String → QueryAnswer) (listing : Listing) :
    (Asking.list state listing (.ok ()) ask).2 = listAsked ask state.settings listing := by
  obtain ⟨connected, hsettings, hempty, hensure⟩ : ∃ connected : OracleCatalogState,
      connected.settings = state.settings ∧ connected.currentSchema = "" ∧
        state.ensureConnection (.ok ()) = (connected, .ok ()) :=
    ⟨{ state with connection := some state.connectionString }, rfl, hcurrent,
      ensureConnection_of_none hconnection⟩
  cases listing with
  | schemas =>
    have hask : Asking.currentSchema connected ask =
        if state.settings.lazySchemaLoading then schemaAsked ask else .ok "" := by
      rw [Asking.currentSchema, hsettings, hempty, schemaAsked]
      exact if_congr (and_iff_left rfl) rfl rfl
    rw [Asking.list, Asking.listSchemas, if_neg (not_not_intro hschemas), hensure]
    dsimp only
    rw [hask, listAsked, hsettings]
    cases (if state.settings.lazySchemaLoading then schemaAsked ask else .ok "") with
    | error e => rfl
    | ok current =>
      dsimp only
      split
      · rfl
      · cases ask listSchemasQuery with
        | error e => rfl
        | ok rows => rfl
  | tables schema =>
    rw [Asking.list, Asking.listTables, htables, hensure]
    dsimp only [List.lookup_nil, listAsked]
    split
    · rfl
    · cases ask (listTablesQuery schema) with
      | error e => rfl
      | ok rows => rfl
  | objects schema objectTypes =>
    rw [Asking.list, Asking.listObjects, hobjects, hensure]
    dsimp only [List.lookup_nil, listAsked]
    rw [hsettings]
    cases ask (listObjectsQuery state.settings.metadataResultLimit schema objectTypes) with
    | error e => rfl
    | ok rows => rfl

theorem listFresh_eq (answers : String → QueryAnswer) (state : OracleCatalogState)
    (settings : OracleSettings) (listing : Listing) :
    listFresh answers state settings listing = listAsked answers settings listing :=
  list_of_empty rfl rfl rfl rfl rfl answers listing

/-- `DetectCurrentSchema` leaves the lists alone. -/
theorem detectCurrentSchema_spec {answers : String → QueryAnswer} {state : OracleCatalogState}
    (hknown : KnownSchema answers state.currentSchema) (connect : Except String Unit)
    (faults : String → Option String) :
    let result := state.detectCurrentSchema connect (answerOr answers faults currentSchemaQuery)
    KnownSchema answers result.1.currentSchema ∧
      (∀ place, cachedAt result.1 place = cachedAt state place) ∧
      ∀ e, result.2 = .error e → SameCaches state result.1 := by
  intro result
  by_cases hempty : state.currentSchema ≠ ""
  · have hresult : result = (state, .ok ()) := if_pos hempty
    rw [hresult]
    exact ⟨hknown, fun _ => rfl, fun e he => nomatch he⟩
  obtain ⟨connected, -, hsame, hconnect⟩ := exists_ensureConnection state connect
  have hknown' : KnownSchema answers connected.currentSchema := by
    rw [hsame.currentSchema]
    exact hknown
  rcases hconnect with ⟨e, hconnect⟩ | hconnect
  · have hresult : result = (connected, .error e) := by
      simp only [result, detectCurrentSchema, if_neg hempty, hconnect]
    rw [hresult]
    exact ⟨hknown', cachedAt_eq hsame, fun _ _ => hsame⟩
  cases hquery : answerOr answers faults currentSchemaQuery with
  | error e =>
    have hresult : result = (connected, .ok ()) := by
      simp only [result, detectCurrentSchema, if_neg hempty, hconnect, hquery]
    rw [hresult]
    exact ⟨hknown', cachedAt_eq hsame, fun e he => nomatch he⟩
  | ok rows =>
    cases hcell : firstCell rows with
    | none =>
      have hresult : result = (connected, .ok ()) := by
        simp only [result, detectCurrentSchema, if_neg hempty, hconnect, hquery, hcell]
      rw [hresult]
      exact ⟨hknown', cachedAt_eq hsame, fun e he => nomatch he⟩
    | some cell =>
      have hresult : result = ({ connected with currentSchema := cell }, .ok ()) := by
        simp only [result, detectCurrentSchema, if_neg hempty, hconnect, hquery, hcell]
      rw [hresult]
      refine ⟨fun _ => ?_, fun place => ?_, fun e he => nomatch he⟩
      · rw [schemaAsked, answerOr_eq_ok hquery, Except.map, hcell]
        rfl
      · rw [← cachedAt_eq hsame place]
        cases place <;> rfl

/-! ## One call -/

/-- Every cached list is what the call that filled its place asked for. -/
structure CacheWorld.Sound (answers : String → QueryAnswer) (w : CacheWorld) : Prop where
  known : KnownSchema answers w.state.currentSchema
  filled : ∀ place names, cachedAt w.state place = some names → ∃ filling,
    w.filledBy place = some filling ∧
      listAsked answers filling.settings filling.listing = .ok names

theorem cachedAt_of_cleared {state : OracleCatalogState} (hschemas : state.schemaCache = [])
    (htables : state.tableCache = []) (hobjects : state.objectCache = []) (place : CachePlace) :
    cachedAt state place = none := by
  cases place with
  | schemas => exact if_neg (not_not_intro hschemas)
  | tables schema => rw [cachedAt, htables, List.lookup_nil]
  | objects key => rw [cachedAt, hobjects, List.lookup_nil]

theorem sound_of_cleared {answers : String → QueryAnswer} {w : CacheWorld}
    (hcurrent : w.state.currentSchema = "") (hschemas : w.state.schemaCache = [])
    (htables : w.state.tableCache = []) (hobjects : w.state.objectCache = []) :
    w.Sound answers where
  known hne := absurd hcurrent hne
  filled place names hnames := by
    rw [cachedAt_of_cleared hschemas htables hobjects] at hnames
    cases hnames

theorem sound_cacheStep {answers : String → QueryAnswer} {w w' : CacheWorld} {call : CacheCall}
    (h : w.Sound answers) (hstep : cacheStep answers w call = some w') : w'.Sound answers := by
  obtain rfl := Option.some.inj hstep
  cases call with
  | detectCurrentSchema connect faults =>
    obtain ⟨hknown, hplaces, -⟩ := detectCurrentSchema_spec h.known connect faults
    refine ⟨hknown, fun place names hnames => ?_⟩
    exact h.filled place names ((hplaces place).symm.trans hnames)
  | applyOptions options =>
    refine ⟨h.known, fun place names hnames => h.filled place names ?_⟩
    cases place <;> exact hnames
  | clearCaches => exact sound_of_cleared rfl rfl rfl rfl
  | list listing connect faults =>
    cases hcached : cachedAt w.state listing.place with
    | some names =>
      have hstate : (CacheCall.apply answers w.state (.list listing connect faults)).1 = w.state :=
        congrArg Prod.fst (list_of_cached hcached connect (answerOr answers faults))
      have hnote : w.note (.list listing connect faults) = w.filledBy := by
        rw [CacheWorld.note, hcached]
        rfl
      rw [hstate, hnote]
      exact h
    | none =>
      have hlists := lists_list h.known connect faults hcached
      have hnote : w.note (.list listing connect faults) =
          Function.update w.filledBy listing.place (some ⟨listing, w.state.settings⟩) := by
        rw [CacheWorld.note, hcached]
        rfl
      refine ⟨hlists.known, fun place names hnames => ?_⟩
      rw [hnote]
      by_cases hplace : place = listing.place
      · subst hplace
        exact ⟨_, Function.update_self _ _ _, hlists.own names hnames⟩
      · show ∃ filling, Function.update w.filledBy listing.place _ place = some filling ∧ _
        rw [Function.update_of_ne hplace]
        exact h.filled place names ((hlists.other place hplace).symm.trans hnames)

/-- A call that throws leaves the caches as they were. -/
theorem sameCaches_of_throws {answers : String → QueryAnswer} {w : CacheWorld}
    (h : w.Sound answers) {call : CacheCall} {e : String}
    (he : (call.apply answers w.state).2 = .error e) :
    SameCaches w.state (call.apply answers w.state).1 := by
  cases call with
  | detectCurrentSchema connect faults =>
    obtain ⟨-, -, hthrows⟩ := detectCurrentSchema_spec h.known connect faults
    exact hthrows e (map_eq_error.mp he)
  | applyOptions options => exact ⟨rfl, rfl, rfl, rfl, rfl, rfl⟩
  | clearCaches => cases he
  | list listing connect faults =>
    cases hcached : cachedAt w.state listing.place with
    | some names =>
      have hlist := list_of_cached hcached connect (answerOr answers faults)
      rw [CacheCall.apply, hlist] at he
      cases he
    | none => exact (lists_list h.known connect faults hcached).throws e (map_eq_error.mp he)

/-- An uncached call that returns a list gives what it would give with all caches empty. -/
theorem listFresh_of_uncached {answers : String → QueryAnswer} {w : CacheWorld}
    (h : w.Sound answers) {listing : Listing} {connect : Except String Unit}
    {faults : String → Option String} (hcached : cachedAt w.state listing.place = none)
    {names : List String}
    (hnames : (CacheCall.apply answers w.state (.list listing connect faults)).2 =
      .ok (some names)) :
    listFresh answers w.state w.state.settings listing = .ok names := by
  rw [listFresh_eq]
  refine (lists_list h.known connect faults hcached).returns names ?_
  obtain ⟨names', hnames', heq⟩ := map_eq_ok.mp hnames
  obtain rfl := Option.some.inj heq
  exact hnames'

/-- A cached call gives what the call that filled its place asked for. -/
theorem listAsked_of_cached {answers : String → QueryAnswer} {w : CacheWorld}
    (h : w.Sound answers) {listing : Listing} (hcached : cachedAt w.state listing.place ≠ none)
    (connect : Except String Unit) (faults : String → Option String) :
    ∃ filling names, w.filledBy listing.place = some filling ∧
      listAsked answers filling.settings filling.listing = .ok names ∧
      (CacheCall.apply answers w.state (.list listing connect faults)).2 = .ok (some names) := by
  obtain ⟨names, hnames⟩ := Option.ne_none_iff_exists'.mp hcached
  obtain ⟨filling, hfilling, hasked⟩ := h.filled _ names hnames
  refine ⟨filling, names, hfilling, hasked, ?_⟩
  rw [CacheCall.apply, list_of_cached hnames connect (answerOr answers faults)]
  rfl

/-! ## Runs -/

/-- **Whatever is called in whatever order, a listing gives what was asked for**: with
all caches empty it would give the same, under the settings in force, or under those in
force when its list was cached. -/
theorem lists_as_filled (answers : String → QueryAnswer) (connectionString : String)
    (settings : OracleSettings) (calls : List CacheCall) :
    Guarded (cacheStep answers) (ListsAsFilled answers) (.start connectionString settings)
      calls := by
  intro pre call _ w hrun
  have h : w.Sound answers :=
    run_invariant (fun _ _ _ hs hstep => sound_cacheStep hs hstep)
      (sound_of_cleared rfl rfl rfl rfl) hrun
  refine ⟨?_, ?_, fun e he => sameCaches_of_throws h he⟩
  · rintro listing connect faults rfl hcached names hnames
    exact listFresh_of_uncached h hcached hnames
  · rintro listing connect faults rfl hcached
    obtain ⟨filling, names, hfilling, hasked, hresult⟩ :=
      listAsked_of_cached h hcached connect faults
    refine ⟨filling, hfilling, ?_⟩
    rintro rfl names' hnames'
    rw [listFresh_eq, hasked]
    exact congrArg Except.ok (Option.some.inj (Except.ok.inj (hresult.symm.trans hnames')))

/-- Two schemas, of which `SCOTT` is the current one. -/
def scottAnswers (query : String) : QueryAnswer :=
  if query = currentSchemaQuery then .ok [["SCOTT"]] else .ok [["HR"], ["SCOTT"]]

/-- Loading schemas lazily is turned off after they were listed, and `HR` is still missing. -/
theorem lazySchemas_cached : ¬ Guarded (cacheStep scottAnswers) (Transparent scottAnswers)
    (.start "" {})
    [.list .schemas (.ok ()) fun _ => none,
      .applyOptions [("lazy_schema_loading", .boolean false)],
      .list .schemas (.ok ()) fun _ => none] := by
  intro h
  have hlast := h [_, _] _ (List.prefix_refl _) _ rfl
  have hfresh := hlast.lists .schemas (.ok ()) _ rfl ["main", "SCOTT"] (by decide)
  rw [listFresh_eq] at hfresh
  exact absurd hfresh (by decide)

/-- A cached list is what is asked for now: the call that has cached it and this one get the
same list from Oracle, under the settings of then and now. -/
def StillCurrent (answers : String → QueryAnswer) (w : CacheWorld) : CacheCall → Prop
  | .list listing _ _ => cachedAt w.state listing.place ≠ none →
    ∀ filling, w.filledBy listing.place = some filling →
      listAsked answers filling.settings filling.listing =
        listAsked answers w.state.settings listing
  | _ => True

theorem transparent_call_iff {answers : String → QueryAnswer} {w : CacheWorld}
    (h : w.Sound answers) (call : CacheCall) :
    Transparent answers w call ↔ StillCurrent answers w call := by
  constructor
  · intro htransparent
    cases call with
    | detectCurrentSchema connect faults => trivial
    | applyOptions options => trivial
    | clearCaches => trivial
    | list listing connect faults =>
      intro hcached filling hfilling
      obtain ⟨filling', names, hfilling', hasked, hresult⟩ :=
        listAsked_of_cached h hcached connect faults
      obtain rfl := Option.some.inj (hfilling'.symm.trans hfilling)
      have hfresh := htransparent.lists listing connect faults rfl names hresult
      rw [listFresh_eq] at hfresh
      exact hasked.trans hfresh.symm
  · intro hcurrent
    refine ⟨?_, fun e he => sameCaches_of_throws h he⟩
    rintro listing connect faults rfl names hnames
    by_cases hcached : cachedAt w.state listing.place = none
    · exact listFresh_of_uncached h hcached hnames
    · obtain ⟨filling, names', hfilling, hasked, hresult⟩ :=
        listAsked_of_cached h hcached connect faults
      rw [listFresh_eq, ← hcurrent hcached filling hfilling, hasked]
      exact congrArg Except.ok (Option.some.inj (Except.ok.inj (hresult.symm.trans hnames)))

/-- **When the caches are transparent**: every call of a run is, exactly if each call that
finds its list in a cache would get the same list from Oracle as the call that cached it. -/
theorem transparent_iff (answers : String → QueryAnswer) (connectionString : String)
    (settings : OracleSettings) (calls : List CacheCall) :
    Guarded (cacheStep answers) (Transparent answers) (.start connectionString settings) calls ↔
      Guarded (cacheStep answers) (StillCurrent answers) (.start connectionString settings) calls :=
  guarded_congr (fun _ _ _ hs hstep => sound_cacheStep hs hstep)
    (fun _ hs call _ => transparent_call_iff hs call) (sound_of_cleared rfl rfl rfl rfl)

-- the request that has filled a place need not be the one that finds its list there
example : cacheKey "A:B" "C" = cacheKey "A" "B:C" := by decide

end Catalog
end DuckdbOracle
