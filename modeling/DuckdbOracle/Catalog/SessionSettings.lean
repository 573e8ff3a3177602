import DuckdbOracle.Catalog.Settings

/-!
# Which value of a setting is in effect?

Most settings of an attached database can be given in two ways: as an option of its
`ATTACH`, or with `SET` as an option of the session, which is named `oracle_` and the name
of the setting.  Session options are registered with a default, and DuckDB answers with
that default for an option that was never `SET`.

The rule that both are for is: the value that was `SET`, else the value given at `ATTACH`,
else the default.  The code has two places.  `ApplyOptions` makes the settings the catalog
works with, and looks at the options of the `ATTACH` only; `GetOracleSettings` makes the
settings of a scan, and writes the session's answer over every setting that has one.  So
for each setting the rule holds exactly as far as the layer that a place does not look at
says what it would have said anyway (`followsRule_iff`).
-/

namespace DuckdbOracle
namespace Catalog

open Duckdb

/-! ## The settings by name -/

/-- The members of `OracleSettings`. -/
inductive Setting where
  | enablePushdown
  | prefetchRows
  | prefetchMemory
  | arraySize
  | connectionCache
  | connectionLimit
  | debugShowQueries
  | lazySchemaLoading
  | metadataObjectTypes
  | metadataResultLimit
  | useCurrentSchema
  | tryNativeLobs
  | lobMaxSize
  | vectorToList
  | enableTypeConversion
  | enableSpatialTypes
  deriving DecidableEq

/-- The name of a setting as an option of `ATTACH`. -/
def Setting.key : Setting → String
  | .enablePushdown => "enable_pushdown"
  | .prefetchRows => "prefetch_rows"
  | .prefetchMemory => "prefetch_memory"
  | .arraySize => "array_size"
  | .connectionCache => "connection_cache"
  | .connectionLimit => "connection_limit"
  | .debugShowQueries => "debug_show_queries"
  | .lazySchemaLoading => "lazy_schema_loading"
  | .metadataObjectTypes => "metadata_object_types"
  | .metadataResultLimit => "metadata_result_limit"
  | .useCurrentSchema => "use_current_schema"
  | .tryNativeLobs => "try_native_lobs"
  | .lobMaxSize => "lob_max_size"
  | .vectorToList => "vector_to_list"
  | .enableTypeConversion => "enable_type_conversion"
  | .enableSpatialTypes => "enable_spatial_types"

/-- How a setting is read from a value. -/
inductive Kind where
  | flag
  /-- A count that is raised to one. -/
  | positive
  /-- A count that is raised to zero. -/
  | natural
  | text

def Kind.Val : Kind → Type
  | .flag => Bool
  | .positive => ℕ
  | .natural => ℕ
  | .text => String

def Kind.convert : (kind : Kind) → Value → Except String kind.Val
  | .flag, v => v.getBool
  | .positive, v => v.getInt64.map atLeastOne
  | .natural, v => v.getInt64.map atLeastZero
  | .text, v => .ok v.toString

def Setting.kind : Setting → Kind
  | .prefetchRows => .positive
  | .arraySize => .positive
  | .connectionLimit => .positive
  | .prefetchMemory => .natural
  | .metadataResultLimit => .natural
  | .lobMaxSize => .natural
  | .metadataObjectTypes => .text
  | .enablePushdown => .flag
  | .connectionCache => .flag
  | .debugShowQueries => .flag
  | .lazySchemaLoading => .flag
  | .useCurrentSchema => .flag
  | .tryNativeLobs => .flag
  | .vectorToList => .flag
  | .enableTypeConversion => .flag
  | .enableSpatialTypes => .flag

def OracleSettings.get (settings : OracleSettings) : (s : Setting) → s.kind.Val
  | .enablePushdown => settings.enablePushdown
  | .prefetchRows => settings.prefetchRows
  | .prefetchMemory => settings.prefetchMemory
  | .arraySize => settings.arraySize
  | .connectionCache => settings.connectionCache
  | .connectionLimit => settings.connectionLimit
  | .debugShowQueries => settings.debugShowQueries
  | .lazySchemaLoading => settings.lazySchemaLoading
  | .metadataObjectTypes => settings.metadataObjectTypes
  | .metadataResultLimit => settings.metadataResultLimit
  | .useCurrentSchema => settings.useCurrentSchema
  | .tryNativeLobs => settings.tryNativeLobs
  | .lobMaxSize => settings.lobMaxSize
  | .vectorToList => settings.vectorToList
  | .enableTypeConversion => settings.enableTypeConversion
  | .enableSpatialTypes => settings.enableSpatialTypes

def OracleSettings.put (settings : OracleSettings) : (s : Setting) → s.kind.Val → OracleSettings
  | .enablePushdown, x => { settings with enablePushdown := x }
  | .prefetchRows, x => { settings with prefetchRows := x }
  | .prefetchMemory, x => { settings with prefetchMemory := x }
  | .arraySize, x => { settings with arraySize := x }
  | .connectionCache, x => { settings with connectionCache := x }
  | .connectionLimit, x => { settings with connectionLimit := x }
  | .debugShowQueries, x => { settings with debugShowQueries := x }
  | .lazySchemaLoading, x => { settings with lazySchemaLoading := x }
  | .metadataObjectTypes, x => { settings with metadataObjectTypes := x }
  | .metadataResultLimit, x => { settings with metadataResultLimit := x }
  | .useCurrentSchema, x => { settings with useCurrentSchema := x }
  | .tryNativeLobs, x => { settings with tryNativeLobs := x }
  | .lobMaxSize, x => { settings with lobMaxSize := x }
  | .vectorToList, x => { settings with vectorToList := x }
  | .enableTypeConversion, x => { settings with enableTypeConversion := x }
  | .enableSpatialTypes, x => { settings with enableSpatialTypes := x }

@[simp] theorem get_put_self (settings : OracleSettings) (s : Setting) (x : s.kind.Val) :
    (settings.put s x).get s = x := by
  cases s <;> rfl

theorem get_put_of_ne (settings : OracleSettings) {s t : Setting} (h : t ≠ s)
    (x : s.kind.Val) : (settings.put s x).get t = settings.get t := by
  cases s <;> cases t <;> first | rfl | exact absurd rfl h

/-- A value is assigned to a setting, unless it does not convert. -/
def Setting.assign (s : Setting) (settings : OracleSettings) (v : Value) :
    Except String OracleSettings :=
  (s.kind.convert v).map (settings.put s)

/-- What an assignment does to each setting. -/
theorem get_assign {s : Setting} {settings settings' : OracleSettings} {v : Value}
    (h : s.assign settings v = .ok settings') :
    s.kind.convert v = .ok (settings'.get s) ∧ ∀ t ≠ s, settings'.get t = settings.get t := by
  rw [Setting.assign] at h
  cases hconv : s.kind.convert v with
  | error e =>
    rw [hconv] at h
    cases h
  | ok x =>
    rw [hconv] at h
    obtain rfl := Except.ok.inj h
    exact ⟨congrArg Except.ok (get_put_self settings s x).symm,
      fun t ht => get_put_of_ne settings ht x⟩

/-! ## Options of `ATTACH` -/

/-- The setting that an option names. -/
def Setting.ofKey? : String → Option Setting
  | "enable_pushdown" => some .enablePushdown
  | "prefetch_rows" => some .prefetchRows
  | "prefetch_memory" => some .prefetchMemory
  | "array_size" => some .arraySize
  | "connection_cache" => some .connectionCache
  | "connection_limit" => some .connectionLimit
  | "debug_show_queries" => some .debugShowQueries
  | "lazy_schema_loading" => some .lazySchemaLoading
  | "metadata_object_types" => some .metadataObjectTypes
  | "metadata_result_limit" => some .metadataResultLimit
  | "use_current_schema" => some .useCurrentSchema
  | "try_native_lobs" => some .tryNativeLobs
  | "lob_max_size" => some .lobMaxSize
  | "vector_to_list" => some .vectorToList
  | "enable_type_conversion" => some .enableTypeConversion
  | "enable_spatial_types" => some .enableSpatialTypes
  | _ => none

theorem ofKey?_eq_some_iff {key : String} {s : Setting} :
    Setting.ofKey? key = some s ↔ key = s.key := by
  constructor
  · intro h
    unfold Setting.ofKey? at h
    split at h
    all_goals first
      | (obtain rfl := Option.some.inj h; rfl)
      | cases h
  · rintro rfl
    cases s <;> rfl

/-- An option is assigned to the setting it names. -/
theorem applyOption_of_key {s : Setting} {name : String} (h : lower name = s.key)
    (settings : OracleSettings) (v : Value) :
    applyOption settings (name, v) = s.assign settings v := by
  rw [applyOption, h]
  cases s
  all_goals first
    | rfl
    | (show v.getInt64.bind _ = (v.getInt64.map _).map _; cases v.getInt64 <;> rfl)

/-- An option that names no setting is ignored. -/
theorem applyOption_of_none {name : String} (h : Setting.ofKey? (lower name) = none)
    (settings : OracleSettings) (v : Value) : applyOption settings (name, v) = .ok settings := by
  unfold applyOption
  split
  all_goals first
    | rfl
    | (rename_i hname; rw [hname] at h; cases h)

/-- What is given for a setting: the last option that names it. -/
def givenValue (options : List (String × Value)) (s : Setting) : Option Value :=
  (options.filter fun e => lower e.1 = s.key).getLast?.map Prod.snd

theorem givenValue_cons (e : String × Value) (options : List (String × Value)) (s : Setting) :
    givenValue (e :: options) s =
      (givenValue options s).or (if lower e.1 = s.key then some e.2 else none) := by
  rw [givenValue, givenValue, List.filter_cons]
  by_cases h : lower e.1 = s.key
  · rw [if_pos (decide_eq_true h), if_pos h, List.getLast?_cons]
    cases (options.filter fun e => lower e.1 = s.key).getLast? <;> rfl
  · rw [if_neg (mt of_decide_eq_true h), if_neg h, Option.or_none]

/-- What an option does to each setting. -/
theorem get_applyOption {settings settings' : OracleSettings} {e : String × Value}
    (h : applyOption settings e = .ok settings') (s : Setting) :
    if lower e.1 = s.key then s.kind.convert e.2 = .ok (settings'.get s)
    else settings'.get s = settings.get s := by
  cases hkey : Setting.ofKey? (lower e.1) with
  | none =>
    rw [applyOption_of_none hkey] at h
    obtain rfl := Except.ok.inj h
    have hne : lower e.1 ≠ s.key := by
      intro heq
      rw [ofKey?_eq_some_iff.mpr heq] at hkey
      cases hkey
    rw [if_neg hne]
  | some t =>
    have hname := ofKey?_eq_some_iff.mp hkey
    obtain ⟨hself, hother⟩ := get_assign ((applyOption_of_key hname settings e.2).symm.trans h)
    by_cases heq : lower e.1 = s.key
    · obtain rfl : t = s := Option.some.inj (hkey.symm.trans (ofKey?_eq_some_iff.mpr heq))
      rw [if_pos heq]
      exact hself
    · have hne : s ≠ t := fun hst => heq (hname.trans (congrArg Setting.key hst.symm))
      rw [if_neg heq]
      exact hother s hne

/-- **What `ApplyOptions` makes of a setting**: what is given for it, and else what it was. -/
theorem get_applyOptions {settings settings' : OracleSettings} {options : List (String × Value)}
    (h : applyOptions settings options = (settings', .ok ())) (s : Setting) :
    match givenValue options s with
    | some v => s.kind.convert v = .ok (settings'.get s)
    | none => settings'.get s = settings.get s := by
  induction options generalizing settings with
  | nil =>
    obtain rfl := (Prod.mk.inj h).1
    rfl
  | cons e options ih =>
    rw [applyOptions] at h
    cases hfirst : applyOption settings e with
    | error message =>
      rw [hfirst] at h
      exact nomatch (Prod.mk.inj h).2
    | ok mid =>
      rw [hfirst] at h
      have hrest := ih h
      have hstep := get_applyOption hfirst s
      rw [givenValue_cons]
      cases hgiven : givenValue options s with
      | some v =>
        rw [hgiven] at hrest
        exact hrest
      | none =>
        rw [hgiven] at hrest
        by_cases heq : lower e.1 = s.key
        · rw [if_pos heq] at hstep ⊢
          rw [Option.none_or]
          exact hrest.symm ▸ hstep
        · rw [if_neg heq] at hstep ⊢
          rw [Option.none_or]
          exact hrest.trans hstep

/-! ## Options of the session -/

/-- The session options that the extension registers, with their defaults. -/
def extensionOptions : List (String × Value) := [
  ("oracle_enable_pushdown", .boolean true),
  ("oracle_prefetch_rows", .integer 1024),
  ("oracle_prefetch_memory", .integer 0),
  ("oracle_array_size", .integer 256),
  ("oracle_connection_cache", .boolean true),
  ("oracle_connection_limit", .integer 8),
  ("oracle_debug_show_queries", .boolean false),
  ("oracle_lazy_schema_loading", .boolean true),
  ("oracle_metadata_object_types", .varchar "TABLE,VIEW,SYNONYM,MATERIALIZED VIEW"),
  ("oracle_metadata_result_limit", .integer 10000),
  ("oracle_use_current_schema", .boolean true),
  ("oracle_enable_spatial_types", .boolean true)]

/-- The name of a setting as an option of the session. -/
def Setting.optionName (s : Setting) : String := "oracle_" ++ s.key

/-- The values that were `SET`, by the names of their options. -/
abbrev Session := String → Option Value

/-- `ClientContext::TryGetCurrentSetting`: an option has the value that was `SET`, and else
its registered default. -/
def Session.tryGetCurrentSetting (session : Session) (name : String) : Option Value :=
  (extensionOptions.lookup name).map fun default => (session name).getD default

/-- What `GetOracleSettings` asks for, in its order. -/
def sessionSettings : List Setting := [.enablePushdown, .prefetchRows, .prefetchMemory,
  .arraySize, .connectionCache, .connectionLimit, .debugShowQueries, .lazySchemaLoading,
  .metadataObjectTypes, .metadataResultLimit, .useCurrentSchema, .enableSpatialTypes]

/-- One question of `GetOracleSettings`. -/
def Session.overwrite (session : Session) (settings : OracleSettings) (s : Setting) :
    Except String OracleSettings :=
  match session.tryGetCurrentSetting s.optionName with
  | some v => s.assign settings v
  | none => .ok settings

/-- `GetOracleSettings`, with the settings of the state if there is one. -/
def getOracleSettings (session : Session) (state : Option OracleSettings) :
    Except String OracleSettings :=
  sessionSettings.foldlM session.overwrite (state.getD {})

/-! ## What `GetOracleSettings` makes of a setting -/

theorem get_overwrite {session : Session} {settings settings' : OracleSettings} {s : Setting}
    (h : session.overwrite settings s = .ok settings') :
    (∀ v, session.tryGetCurrentSetting s.optionName = some v →
      s.kind.convert v = .ok (settings'.get s)) ∧ ∀ t ≠ s, settings'.get t = settings.get t := by
  rw [Session.overwrite] at h
  cases hv : session.tryGetCurrentSetting s.optionName with
  | none =>
    rw [hv] at h
    obtain rfl := Except.ok.inj h
    exact ⟨nofun, fun t _ => rfl⟩
  | some v =>
    rw [hv] at h
    obtain ⟨hself, hother⟩ := get_assign h
    exact ⟨fun w hw => Option.some.inj hw ▸ hself, hother⟩

theorem get_foldlM_overwrite {session : Session} {l : List Setting} (hnodup : l.Nodup)
    {settings settings' : OracleSettings}
    (h : l.foldlM session.overwrite settings = .ok settings') :
    (∀ s ∈ l, ∀ v, session.tryGetCurrentSetting s.optionName = some v →
      s.kind.convert v = .ok (settings'.get s)) ∧ ∀ t ∉ l, settings'.get t = settings.get t := by
  induction l generalizing settings with
  | nil =>
    obtain rfl := Except.ok.inj h
    exact ⟨fun s hs => absurd hs List.not_mem_nil, fun t _ => rfl⟩
  | cons a l ih =>
    rw [List.foldlM_cons] at h
    cases hfirst : session.overwrite settings a with
    | error e =>
      rw [hfirst] at h
      cases h
    | ok mid =>
      rw [hfirst] at h
      obtain ⟨hnot, hnodup⟩ := List.nodup_cons.mp hnodup
      obtain ⟨hin, hout⟩ := ih hnodup h
      obtain ⟨hself, hother⟩ := get_overwrite hfirst
      constructor
      · intro s hs v hv
        rcases List.mem_cons.mp hs with rfl | hmem
        · rw [hout s hnot]
          exact hself v hv
        · exact hin s hmem v hv
      · intro t ht
        have htl := hout t fun hmem => ht (List.mem_cons_of_mem a hmem)
        exact htl.trans (hother t fun heq => ht (heq ▸ List.mem_cons_self))

/-- **A scan has the session's answer**, for every setting that the session has. -/
theorem get_getOracleSettings {session : Session} {state : Option OracleSettings}
    {scan : OracleSettings} (h : getOracleSettings session state = .ok scan) {s : Setting}
    (hs : s ∈ sessionSettings) {v : Value}
    (hv : session.tryGetCurrentSetting s.optionName = some v) :
    s.kind.convert v = .ok (scan.get s) :=
  (get_foldlM_overwrite (by decide) h).1 s hs v hv

/-! ## The rule -/

/-- The registered default of a setting. -/
def Setting.registeredDefault (s : Setting) : Option Value := extensionOptions.lookup s.optionName

/-- The settings that the catalog reads from its state: `EnsureConnectionInternal`,
`DetectOracleVersion`, `ListSchemas`, `ListObjects`, `MapOracleColumn`, the generator of
tables and the one of schemas. -/
def Setting.readByCatalog (s : Setting) : Bool :=
  s ∈ [.connectionCache, .debugShowQueries, .lazySchemaLoading, .metadataObjectTypes,
    .metadataResultLimit, .useCurrentSchema, .vectorToList, .enableSpatialTypes,
    .enableTypeConversion, .tryNativeLobs]

/-- The value in effect: what was `SET`, else what was given at `ATTACH`, else the
default. -/
def effectiveValue (session : Session) (options : List (String × Value)) (s : Setting)
    (default : Value) : Value :=
  (session s.optionName).getD ((givenValue options s).getD default)

/-- **A setting follows the rule**, where scans read it and where the catalog does. -/
def FollowsRule (session : Session) (options : List (String × Value))
    (state scan : OracleSettings) (s : Setting) (default : Value) : Prop :=
  s.kind.convert (effectiveValue session options s default) = .ok (scan.get s) ∧
    (s.readByCatalog = true →
      s.kind.convert (effectiveValue session options s default) = .ok (state.get s))

/-- A value given at `ATTACH` is `SET`, too, or is the default; and what is `SET` for a
setting that the catalog reads is what it would be without. -/
def LayersAgree (session : Session) (options : List (String × Value)) (s : Setting)
    (default : Value) : Prop :=
  (∀ v, session s.optionName = none → givenValue options s = some v →
      s.kind.convert v = s.kind.convert default) ∧
    ∀ v, s.readByCatalog = true → session s.optionName = some v →
      s.kind.convert v = s.kind.convert ((givenValue options s).getD default)

theorem mem_sessionSettings {s : Setting} {default : Value}
    (h : s.registeredDefault = some default) : s ∈ sessionSettings := by
  cases s
  all_goals first
    | decide
    | cases h

/-- Where the catalog reads a setting, its registered default is that of `OracleSettings`. -/
theorem convert_registeredDefault {s : Setting} {default : Value}
    (h : s.registeredDefault = some default) (hs : s.readByCatalog = true) :
    s.kind.convert default = .ok (({} : OracleSettings).get s) := by
  cases s
  all_goals first
    | (cases hs; done)
    | (cases h; done)
    | (obtain rfl := Option.some.inj h; rfl)

/-- **When a setting follows the rule**: exactly if the layers agree where a place does not
look at one of them. -/
theorem followsRule_iff {session : Session} {options : List (String × Value)}
    {state scan : OracleSettings} (hattach : applyOptions {} options = (state, .ok ()))
    (hscan : getOracleSettings session (some state) = .ok scan) {s : Setting} {default : Value}
    (hdefault : s.registeredDefault = some default) :
    FollowsRule session options state scan s default ↔ LayersAgree session options s default := by
  have hquery : session.tryGetCurrentSetting s.optionName =
      some ((session s.optionName).getD default) := by
    rw [Session.tryGetCurrentSetting, show extensionOptions.lookup s.optionName = _ from hdefault,
      Option.map_some]
  have hscanValue := get_getOracleSettings hscan (mem_sessionSettings hdefault) hquery
  have hstateValue : s.readByCatalog = true →
      s.kind.convert ((givenValue options s).getD default) = .ok (state.get s) := by
    intro hs
    have hstate := get_applyOptions hattach s
    cases hgiven : givenValue options s with
    | none =>
      rw [hgiven] at hstate
      rw [hstate]
      exact convert_registeredDefault hdefault hs
    | some v =>
      rw [hgiven] at hstate
      exact hstate
  rw [FollowsRule, LayersAgree, effectiveValue]
  cases hset : session s.optionName with
  | none =>
    have hempty : ∀ v, s.readByCatalog = true → (none : Option Value) = some v →
        s.kind.convert v = s.kind.convert ((givenValue options s).getD default) := nofun
    rw [hset, Option.getD_none] at hscanValue
    rw [Option.getD_none, and_iff_left hstateValue, and_iff_left hempty, ← hscanValue]
    cases givenValue options s with
    | none => exact ⟨fun _ => nofun, fun _ => rfl⟩
    | some v =>
      rw [Option.getD_some]
      exact ⟨fun h w _ hw => Option.some.inj hw ▸ h, fun h => h v rfl rfl⟩
  | some v =>
    have hempty : ∀ w, (some v : Option Value) = none → givenValue options s = some w →
        s.kind.convert w = s.kind.convert default := nofun
    rw [hset, Option.getD_some] at hscanValue
    rw [Option.getD_some, and_iff_right hscanValue, and_iff_right hempty]
    constructor
    · intro h w hs hw
      obtain rfl := Option.some.inj hw
      exact (h hs).trans (hstateValue hs).symm
    · exact fun h hs => (h v hs rfl).trans (hstateValue hs)

/-- A session that has `SET` one option. -/
def Session.ofSet (name : String) (v : Value) : Session :=
  fun other => if other = name then some v else none

/-- An option that was `SET` and is not one of the catalog. -/
theorem followsRule_pushdown :
    FollowsRule (.ofSet "oracle_enable_pushdown" (.boolean false)) [("enable_pushdown",
      .boolean true)] {} { enablePushdown := false, prefetchRows := 1024 } .enablePushdown
      (.boolean true) :=
  (followsRule_iff rfl rfl rfl).mpr ⟨nofun, nofun⟩

/-- A scan forgets what was given at `ATTACH`, and the catalog does not see what is `SET`. -/
theorem layers_ignored :
    (applyOptions {} [("enable_pushdown", .boolean false)] =
        ({ enablePushdown := false }, .ok ()) ∧
      getOracleSettings (fun _ => none) (some { enablePushdown := false }) =
        .ok { prefetchRows := 1024 } ∧
      ¬ FollowsRule (fun _ => none) [("enable_pushdown", .boolean false)]
        { enablePushdown := false } { prefetchRows := 1024 } .enablePushdown (.boolean true)) ∧
    (applyOptions {} [] = ({}, .ok ()) ∧
      getOracleSettings (.ofSet "oracle_lazy_schema_loading" (.boolean false)) (some {}) =
        .ok { prefetchRows := 1024, lazySchemaLoading := false } ∧
      ¬ FollowsRule (.ofSet "oracle_lazy_schema_loading" (.boolean false)) [] {}
        { prefetchRows := 1024, lazySchemaLoading := false } .lazySchemaLoading
        (.boolean true)) := by
  refine ⟨⟨rfl, rfl, ?_⟩, rfl, rfl, ?_⟩
  · rintro ⟨hscan, -⟩
    exact nomatch hscan
  · rintro ⟨-, hcatalog⟩
    exact nomatch hcatalog rfl

end Catalog
end DuckdbOracle
