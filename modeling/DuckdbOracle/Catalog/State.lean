import DuckdbOracle.Catalog.Settings

/-!
# The state of an attached Oracle database

`OracleCatalogState`: the connection string it was constructed with, its settings,
its connection and what it has found out about the server.  Every method that
talks to Oracle goes through `EnsureConnectionInternal`, which opens the
connection with the string of the state when there is none, and drops the one
there is first when `connection_cache` is off.

Oracle's answers are arguments: an attempt to connect succeeds or throws, and a
query returns rows of text or throws.  A method returns the state it leaves next
to its outcome, since an exception keeps what was written before it.
-/

namespace DuckdbOracle
namespace Catalog

open Duckdb

/-- What Oracle answers to a query: an exception, or rows of text. -/
abbrev QueryAnswer := Except String (List (List String))

/-- The first cell of the first row, if there is one. -/
def firstCell : List (List String) → Option String
  | (cell :: _) :: _ => some cell
  | _ => none

/-- `OracleVersionInfo`. -/
structure OracleVersionInfo where
  major : ℤ := 0
  minor : ℤ := 0
  patch : ℤ := 0
  supportsJsonType : Bool := false
  supportsVector : Bool := false
  supportsVectorSerialize : Bool := false
  deriving DecidableEq

/-- `OracleCatalogState`. -/
structure OracleCatalogState where
  connectionString : String
  settings : OracleSettings := {}
  /-- The string the connection was opened with, when it is open. -/
  connection : Option String := none
  currentSchema : String := ""
  versionInfo : OracleVersionInfo := {}
  versionDetected : Bool := false
  schemaCache : List String := []
  tableCache : List (String × List String) := []
  objectCache : List (String × List String) := []
  deriving DecidableEq

namespace OracleCatalogState

/-! ## The connection -/

/-- With `connection_cache` off the old connection is dropped. -/
def dropUncached (state : OracleCatalogState) : OracleCatalogState :=
  if state.settings.connectionCache then state else { state with connection := none }

/-- `OracleConnection::Connect`, when there is no connection yet. -/
def openConnection (state : OracleCatalogState) (attempt : Except String Unit) :
    OracleCatalogState × Except String Unit :=
  match state.connection with
  | some _ => (state, .ok ())
  | none =>
    match attempt with
    | .ok () => ({ state with connection := some state.connectionString }, .ok ())
    | .error e => (state, .error e)

/-- `EnsureConnectionInternal`. -/
def ensureConnection (state : OracleCatalogState) (attempt : Except String Unit) :
    OracleCatalogState × Except String Unit :=
  state.dropUncached.openConnection attempt

/-- `ClearCaches`. -/
def clearCaches (state : OracleCatalogState) : OracleCatalogState :=
  { state with
    schemaCache := []
    tableCache := []
    objectCache := []
    currentSchema := ""
    versionDetected := false
    versionInfo := {}
    connection := none }

/-! ## What is detected at `ATTACH` -/

/-- `DetectCurrentSchema`. -/
def detectCurrentSchema (state : OracleCatalogState) (attempt : Except String Unit)
    (answer : QueryAnswer) : OracleCatalogState × Except String Unit :=
  if state.currentSchema ≠ "" then (state, .ok ())
  else
    match state.ensureConnection attempt with
    | (state, .error e) => (state, .error e)
    | (state, .ok ()) =>
      match answer with
      | .ok rows =>
        match firstCell rows with
        | some cell => ({ state with currentSchema := cell }, .ok ())
        | none => (state, .ok ())
      | .error _ => (state, .ok ())

/-- `StringUtil::Split`: `getline` until the text is used up. -/
def splitFrom (delimiter : Char) (piece : List Char) : List Char → List (List Char)
  | [] => if piece = [] then [] else [piece.reverse]
  | c :: cs =>
    if c = delimiter then piece.reverse :: splitFrom delimiter [] cs
    else splitFrom delimiter (c :: piece) cs

/-- Up to the next delimiter, the characters are collected. -/
theorem splitFrom_append {delimiter : Char} {text : List Char} (h : delimiter ∉ text)
    (piece rest : List Char) :
    splitFrom delimiter piece (text ++ rest) =
      splitFrom delimiter (text.reverse ++ piece) rest := by
  induction text generalizing piece with
  | nil => rfl
  | cons c text ih =>
    have hc : c ≠ delimiter := fun hc => h (hc ▸ List.mem_cons_self)
    rw [List.cons_append, splitFrom, if_neg hc, ih fun hmem => h (List.mem_cons_of_mem c hmem),
      List.reverse_cons, List.append_assoc, List.singleton_append]

/-- **Splitting undoes joining**, if no piece is empty or has a delimiter in it. -/
theorem splitFrom_intercalate {delimiter : Char} {pieces : List (List Char)}
    (h : ∀ piece ∈ pieces, piece ≠ [] ∧ delimiter ∉ piece) :
    splitFrom delimiter [] ([delimiter].intercalate pieces) = pieces := by
  induction pieces with
  | nil => rfl
  | cons piece pieces ih =>
    obtain ⟨hne, hdelimiter⟩ := h piece List.mem_cons_self
    cases pieces with
    | nil =>
      have hsplit := splitFrom_append hdelimiter [] []
      rw [List.append_nil, List.append_nil] at hsplit
      rw [List.intercalate_singleton, hsplit, splitFrom, if_neg (by simpa using hne),
        List.reverse_reverse]
    | cons next pieces =>
      have hrest := ih fun p hp => h p (List.mem_cons_of_mem piece hp)
      rw [List.intercalate_cons_cons, List.append_assoc, splitFrom_append hdelimiter,
        List.singleton_append, splitFrom, if_pos rfl, List.append_nil, List.reverse_reverse, hrest]

/-- `std::stoi`: white space, a sign, digits; whatever follows is ignored.  `none` is
an exception. -/
def stoi (text : List Char) : Option ℤ :=
  let text := text.dropWhile fun c => c ∈ [' ', '\t', '\n', '\x0b', '\x0c', '\r']
  let (negative, text) := match text with
    | '-' :: rest => (true, rest)
    | '+' :: rest => (false, rest)
    | rest => (false, rest)
  let digits := text.takeWhile Char.isDigit
  if digits = [] then none
  else
    let magnitude : ℤ := Nat.ofDigitChars 10 digits 0
    let value := if negative then -magnitude else magnitude
    if -(2 ^ 31) ≤ value ∧ value < 2 ^ 31 then some value else none

/-- The version numbers of a version text, and the features they switch on. -/
def parseVersion (info : OracleVersionInfo) (text : String) : OracleVersionInfo :=
  let parts := splitFrom '.' [] text.toList
  let number (i : ℕ) (old : ℤ) : ℤ := ((parts[i]?).bind stoi).getD old
  let major := number 0 info.major
  let minor := number 1 info.minor
  { major := major
    minor := minor
    patch := number 2 info.patch
    supportsJsonType := major ≥ 21
    supportsVector := major ≥ 23
    supportsVectorSerialize := major > 23 || (major = 23 && minor ≥ 4) }

/-- The version text: of `V$INSTANCE`, or of `PRODUCT_COMPONENT_VERSION` when the
first query returns no row. -/
def versionText (versionFull productVersion : QueryAnswer) : Except String String := do
  match firstCell (← versionFull) with
  | some cell => return cell
  | none => return (firstCell (← productVersion)).getD ""

/-- `DetectOracleVersion`: a failed query counts as a detection too. -/
def detectOracleVersion (state : OracleCatalogState) (attempt : Except String Unit)
    (versionFull productVersion : QueryAnswer) : OracleCatalogState × Except String Unit :=
  if state.versionDetected then (state, .ok ())
  else
    match state.ensureConnection attempt with
    | (state, .error e) => (state, .error e)
    | (state, .ok ()) =>
      match versionText versionFull productVersion with
      | .ok text =>
        ({ state with
           versionInfo := if text = "" then state.versionInfo
             else parseVersion state.versionInfo text
           versionDetected := true }, .ok ())
      | .error _ => ({ state with versionDetected := true }, .ok ())

/-- What Oracle answers while a catalog is initialized. -/
structure InitializeAnswers where
  connect : Except String Unit := .ok ()
  connectForSchema : Except String Unit := .ok ()
  currentSchema : QueryAnswer := .ok []
  connectForVersion : Except String Unit := .ok ()
  versionFull : QueryAnswer := .ok []
  productVersion : QueryAnswer := .ok []

/-- `OracleCatalog::Initialize`: connect early to fail fast, then detect. -/
def initializeCatalog (state : OracleCatalogState) (oracle : InitializeAnswers) :
    OracleCatalogState × Except String Unit :=
  match state.ensureConnection oracle.connect with
  | (state, .error e) => (state, .error e)
  | (state, .ok ()) =>
    match state.detectCurrentSchema oracle.connectForSchema oracle.currentSchema with
    | (state, .error e) => (state, .error e)
    | (state, .ok ()) =>
      state.detectOracleVersion oracle.connectForVersion oracle.versionFull oracle.productVersion

/-- `ApplyOptions`: the options before one that does not cast stay applied. -/
def applyOptions (state : OracleCatalogState) (options : List (String × Value)) :
    OracleCatalogState × Except String Unit :=
  ({ state with settings := (Catalog.applyOptions state.settings options).1 },
    (Catalog.applyOptions state.settings options).2)

/-- What an `ATTACH` does with its state: `ApplyOptions`, then `CreateOracleCatalog`. -/
def attach (state : OracleCatalogState) (options : List (String × Value))
    (oracle : InitializeAnswers) : OracleCatalogState × Except String Unit :=
  match state.applyOptions options with
  | (state, .error e) => (state, .error e)
  | (state, .ok ()) => state.initializeCatalog oracle

/-! ## What the methods leave alone -/

/-- The connection, when there is one, was opened with the string of the state. -/
def OwnConnection (state : OracleCatalogState) : Prop :=
  ∀ cs, state.connection = some cs → cs = state.connectionString

/-- The methods keep the connection string and the settings, and open no connection
but with that string. -/
structure SameServer (state state' : OracleCatalogState) : Prop where
  connectionString : state'.connectionString = state.connectionString
  settings : state'.settings = state.settings
  connection : state.OwnConnection → state'.OwnConnection

theorem SameServer.refl (state : OracleCatalogState) : SameServer state state := ⟨rfl, rfl, id⟩

theorem SameServer.trans {state₁ state₂ state₃ : OracleCatalogState}
    (h : SameServer state₁ state₂) (h' : SameServer state₂ state₃) : SameServer state₁ state₃ :=
  ⟨h'.connectionString.trans h.connectionString, h'.settings.trans h.settings,
    fun hown => h'.connection (h.connection hown)⟩

theorem sameServer_dropUncached (state : OracleCatalogState) :
    SameServer state state.dropUncached := by
  unfold dropUncached
  split
  · exact SameServer.refl state
  · exact ⟨rfl, rfl, fun _ cs hcs => absurd hcs (by simp)⟩

theorem sameServer_openConnection (state : OracleCatalogState) (attempt : Except String Unit) :
    SameServer state (state.openConnection attempt).1 := by
  unfold openConnection
  split
  · exact SameServer.refl state
  · split
    · exact ⟨rfl, rfl, fun _ cs hcs => (Option.some.inj hcs).symm⟩
    · exact SameServer.refl state

theorem sameServer_ensureConnection (state : OracleCatalogState) (attempt : Except String Unit) :
    SameServer state (state.ensureConnection attempt).1 :=
  (sameServer_dropUncached state).trans (sameServer_openConnection _ attempt)

/-- Everything that is remembered of the server is kept. -/
structure SameCaches (state state' : OracleCatalogState) : Prop where
  currentSchema : state'.currentSchema = state.currentSchema
  versionInfo : state'.versionInfo = state.versionInfo
  versionDetected : state'.versionDetected = state.versionDetected
  schemaCache : state'.schemaCache = state.schemaCache
  tableCache : state'.tableCache = state.tableCache
  objectCache : state'.objectCache = state.objectCache

theorem SameCaches.refl (state : OracleCatalogState) : SameCaches state state :=
  ⟨rfl, rfl, rfl, rfl, rfl, rfl⟩

/-- Connecting keeps it, whether it succeeds or not. -/
theorem sameCaches_ensureConnection (state : OracleCatalogState) (attempt : Except String Unit) :
    SameCaches state (state.ensureConnection attempt).1 := by
  have hdrop : SameCaches state state.dropUncached := by
    unfold dropUncached
    split
    · exact SameCaches.refl state
    · exact ⟨rfl, rfl, rfl, rfl, rfl, rfl⟩
  unfold ensureConnection openConnection
  split
  · exact hdrop
  · split
    · exact ⟨hdrop.currentSchema, hdrop.versionInfo, hdrop.versionDetected, hdrop.schemaCache,
        hdrop.tableCache, hdrop.objectCache⟩
    · exact hdrop

/-- Connecting succeeds or throws. -/
theorem exists_ensureConnection (state : OracleCatalogState) (attempt : Except String Unit) :
    ∃ connected, SameServer state connected ∧ SameCaches state connected ∧
      ((∃ e, state.ensureConnection attempt = (connected, .error e)) ∨
        state.ensureConnection attempt = (connected, .ok ())) := by
  refine ⟨(state.ensureConnection attempt).1, sameServer_ensureConnection state attempt,
    sameCaches_ensureConnection state attempt, ?_⟩
  cases hensure : state.ensureConnection attempt with
  | mk connected outcome =>
    cases outcome with
    | error e => exact Or.inl ⟨e, rfl⟩
    | ok u => exact Or.inr rfl

/-- Detecting the current schema connects, and writes nothing else. -/
theorem exists_detectCurrentSchema (state : OracleCatalogState) (attempt : Except String Unit)
    (answer : QueryAnswer) :
    ∃ connected schema, SameServer state connected ∧ SameCaches state connected ∧
      (state.detectCurrentSchema attempt answer).1 =
        { connected with currentSchema := schema } := by
  unfold detectCurrentSchema
  by_cases hknown : state.currentSchema ≠ ""
  · rw [if_pos hknown]
    exact ⟨state, state.currentSchema, SameServer.refl state, SameCaches.refl state, rfl⟩
  obtain ⟨connected, hserver, hcaches, hconnect⟩ := exists_ensureConnection state attempt
  have hkept : connected = { connected with currentSchema := connected.currentSchema } := rfl
  rw [if_neg hknown]
  rcases hconnect with ⟨e, hconnect⟩ | hconnect
  · rw [hconnect]
    exact ⟨connected, _, hserver, hcaches, hkept⟩
  · rw [hconnect]
    dsimp only
    split
    · split
      · exact ⟨connected, _, hserver, hcaches, rfl⟩
      · exact ⟨connected, _, hserver, hcaches, hkept⟩
    · exact ⟨connected, _, hserver, hcaches, hkept⟩

theorem sameServer_detectCurrentSchema (state : OracleCatalogState)
    (attempt : Except String Unit) (answer : QueryAnswer) :
    SameServer state (state.detectCurrentSchema attempt answer).1 := by
  obtain ⟨connected, schema, hserver, -, heq⟩ := exists_detectCurrentSchema state attempt answer
  rw [heq]
  exact hserver.trans ⟨rfl, rfl, id⟩

theorem sameServer_detectOracleVersion (state : OracleCatalogState)
    (attempt : Except String Unit) (versionFull productVersion : QueryAnswer) :
    SameServer state (state.detectOracleVersion attempt versionFull productVersion).1 := by
  unfold detectOracleVersion
  by_cases hdetected : state.versionDetected
  · rw [if_pos hdetected]
    exact SameServer.refl state
  obtain ⟨connected, hserver, -, hconnect⟩ := exists_ensureConnection state attempt
  rw [if_neg hdetected]
  rcases hconnect with ⟨e, hconnect⟩ | hconnect
  · rw [hconnect]
    exact hserver
  · rw [hconnect]
    dsimp only
    split <;> exact hserver.trans ⟨rfl, rfl, id⟩

/-- **Initializing a catalog changes neither its server nor its settings**, whether it
succeeds or throws. -/
theorem sameServer_initializeCatalog (state : OracleCatalogState) (oracle : InitializeAnswers) :
    SameServer state (state.initializeCatalog oracle).1 := by
  have hconnect := sameServer_ensureConnection state oracle.connect
  unfold initializeCatalog
  split
  · next heq => rw [heq] at hconnect; exact hconnect
  · next state₁ heq =>
    rw [heq] at hconnect
    have hschema := sameServer_detectCurrentSchema state₁ oracle.connectForSchema
      oracle.currentSchema
    split
    · next heq' => rw [heq'] at hschema; exact hconnect.trans hschema
    · next state₂ heq' =>
      rw [heq'] at hschema
      exact (hconnect.trans hschema).trans (sameServer_detectOracleVersion state₂ _ _ _)

/-- An `ATTACH` changes the settings, as its options say, and nothing else about the
server. -/
theorem sameServer_attach (state : OracleCatalogState) (options : List (String × Value))
    (oracle : InitializeAnswers) :
    SameServer { state with settings := (Catalog.applyOptions state.settings options).1 }
      (state.attach options oracle).1 := by
  show SameServer (state.applyOptions options).1 _
  unfold attach
  split
  · next heq => rw [heq]; exact SameServer.refl _
  · next state₁ heq => rw [heq]; exact sameServer_initializeCatalog state₁ oracle

/-- A query goes through the connection string of the state. -/
theorem connection_ensureConnection {state : OracleCatalogState} (h : state.OwnConnection) :
    (state.ensureConnection (.ok ())).1.connection = some state.connectionString := by
  have hdrop := sameServer_dropUncached state
  unfold ensureConnection openConnection
  split
  · next cs hconn =>
    rw [hconn, hdrop.connection h cs hconn, hdrop.connectionString]
  · rw [← hdrop.connectionString]

end OracleCatalogState
end Catalog
end DuckdbOracle
