import Mathlib.Data.List.TakeWhile
import DuckdbOracle.Catalog.State
import DuckdbOracle.Foundations.StepRuns

/-!
# Which version is detected?

`DetectOracleVersion` asks `V$INSTANCE` for the version, and falls back to
`PRODUCT_COMPONENT_VERSION`.  What it finds, even if it is nothing, is remembered until
the caches are cleared, and `GetVersionInfo` reports it.

The fallback is in the `try` block of the first query.  It is used when `V$INSTANCE` has
no row, and skipped when the query throws, as it does for a user who may not read it.
Then no version is reported, although the second query has one.  And a number that is no
`int` is left out.  `reports_iff` says that nothing else goes wrong: in every run of the
three methods, what `GetVersionInfo` returns is right exactly if at each attempt that it
reports on the version is one that is found.
-/

namespace DuckdbOracle
namespace Catalog

open OracleCatalogState StepRuns

/-! ## Versions -/

/-- A version: one number or more, each in digits. -/
structure VersionText where
  numbers : List (List Char)
  nonempty : numbers ≠ []
  digits : ∀ number ∈ numbers, number ≠ [] ∧ ∀ c ∈ number, c.isDigit = true

/-- How a version is written. -/
def VersionText.text (version : VersionText) : String :=
  String.ofList (['.'].intercalate version.numbers)

/-- The number at a place of a version; behind the last one, zero. -/
def VersionText.number (version : VersionText) (i : ℕ) : ℕ :=
  ((version.numbers[i]?).map fun number => Nat.ofDigitChars 10 number 0).getD 0

/-- What Oracle answers when it is asked for its version. -/
inductive VersionAnswer where
  | failed (message : String)
  | noRow
  | row (version : VersionText)

def VersionAnswer.queryAnswer : VersionAnswer → QueryAnswer
  | .failed message => .error message
  | .noRow => .ok []
  | .row version => .ok [[version.text]]

def VersionAnswer.version? : VersionAnswer → Option VersionText
  | .row version => some version
  | _ => none

def VersionAnswer.isFailed : VersionAnswer → Bool
  | .failed _ => true
  | _ => false

/-- An attempt to detect the version: what the two queries give, if they are asked. -/
structure VersionAttempt where
  versionFull : VersionAnswer
  productVersion : VersionAnswer

/-- The version that an attempt should find. -/
def VersionAttempt.version? (attempt : VersionAttempt) : Option VersionText :=
  attempt.versionFull.version?.or attempt.productVersion.version?

/-- The number at a place of that version; zero if there is none. -/
def VersionAttempt.number (attempt : VersionAttempt) (i : ℕ) : ℕ :=
  (attempt.version?.map fun version => version.number i).getD 0

/-- The numbers of a version, and the features that come with it: JSON with 21c, `VECTOR`
with 23ai and `VECTOR_SERIALIZE` with 23.4. -/
def documentedInfo (major minor patch : ℕ) : OracleVersionInfo where
  major := major
  minor := minor
  patch := patch
  supportsJsonType := 21 ≤ major
  supportsVector := 23 ≤ major
  supportsVectorSerialize := 23 < major ∨ major = 23 ∧ 4 ≤ minor

/-! ## Runs -/

/-- `GetVersionInfo`: the version is detected on demand. -/
def OracleCatalogState.getVersionInfo (state : OracleCatalogState) (connect : Except String Unit)
    (versionFull productVersion : QueryAnswer) :
    OracleCatalogState × Except String OracleVersionInfo :=
  if state.versionDetected then (state, .ok state.versionInfo)
  else
    match state.detectOracleVersion connect versionFull productVersion with
    | (state, .error e) => (state, .error e)
    | (state, .ok ()) => (state, .ok state.versionInfo)

/-- A call of one of the three methods.  The first two may connect and ask. -/
inductive VersionCall where
  | detectOracleVersion (connect : Except String Unit) (attempt : VersionAttempt)
  | getVersionInfo (connect : Except String Unit) (attempt : VersionAttempt)
  | clearCaches

/-- A catalog state, and what has happened to it: the last attempt since the caches were
cleared, and what the last call has returned, if it was one of `GetVersionInfo`. -/
structure VersionWorld where
  state : OracleCatalogState
  lastAttempt : Option VersionAttempt := none
  returned : Option OracleVersionInfo := none

/-- The last attempt after a call: the call makes one if no version is detected and there
is a connection. -/
def VersionWorld.attemptAfter (w : VersionWorld) (connect : Except String Unit)
    (attempt : VersionAttempt) : Option VersionAttempt :=
  if w.state.versionDetected then w.lastAttempt
  else
    match w.state.ensureConnection connect with
    | (_, .ok ()) => some attempt
    | (_, .error _) => w.lastAttempt

/-- One call.  Every call can be made at any time. -/
def versionStep (w : VersionWorld) : VersionCall → Option VersionWorld
  | .detectOracleVersion connect attempt =>
    some
      { state := (w.state.detectOracleVersion connect attempt.versionFull.queryAnswer
          attempt.productVersion.queryAnswer).1
        lastAttempt := w.attemptAfter connect attempt }
  | .getVersionInfo connect attempt =>
    let result := w.state.getVersionInfo connect attempt.versionFull.queryAnswer
      attempt.productVersion.queryAnswer
    some
      { state := result.1
        lastAttempt := w.attemptAfter connect attempt
        returned := result.2.toOption }
  | .clearCaches => some { state := w.state.clearCaches }

theorem versionStep_total (w : VersionWorld) (call : VersionCall) :
    ∃ w', versionStep w call = some w' := by
  cases call <;> exact ⟨_, rfl⟩

/-- Nothing has been called yet. -/
def VersionWorld.start (connectionString : String) (settings : OracleSettings) : VersionWorld where
  state := { connectionString := connectionString, settings := settings }

/-! ## The property and the condition -/

/-- **What `GetVersionInfo` has returned is right**: the numbers are those of the version
that the last attempt should find, and the features come with them. -/
def VersionWorld.Reports (w : VersionWorld) : Prop :=
  ∀ info, w.returned = some info → ∃ attempt, w.lastAttempt = some attempt ∧
    info = documentedInfo (attempt.number 0) (attempt.number 1) (attempt.number 2)

/-- The version is found: `V$INSTANCE` does not throw, and the three numbers fit into an
`int`.  A number that is zero anyway need not be found. -/
def VersionAttempt.Detectable (attempt : VersionAttempt) : Prop :=
  ∀ i < 3, attempt.number i ≠ 0 →
    attempt.versionFull.isFailed = false ∧ attempt.number i < 2 ^ 31

/-- The attempt that `GetVersionInfo` reports on, its own or an earlier one, finds the
version. -/
def Detected (w : VersionWorld) : VersionCall → Prop
  | .getVersionInfo connect attempt =>
    ∀ last, w.attemptAfter connect attempt = some last → last.Detectable
  | _ => True

/-! ## What an attempt finds -/

/-- What `std::stoi` makes of digits. -/
theorem stoi_digits {number : List Char} (hne : number ≠ [])
    (hdigits : ∀ c ∈ number, c.isDigit = true) :
    stoi number = if Nat.ofDigitChars 10 number 0 < 2 ^ 31
      then some (Nat.ofDigitChars 10 number 0 : ℤ) else none := by
  obtain ⟨c, cs, rfl⟩ := List.exists_cons_of_ne_nil hne
  have hc : c.isDigit = true := hdigits c List.mem_cons_self
  have hspace : c ∉ [' ', '\t', '\n', '\x0b', '\x0c', '\r'] := by
    intro hmem
    have hall : ∀ d ∈ [' ', '\t', '\n', '\x0b', '\x0c', '\r'], d.isDigit = false := by
      simp [Char.isDigit]
    rw [hall c hmem] at hc
    cases hc
  have hminus : c ≠ '-' := fun h => absurd (h ▸ hc) (by decide)
  have hplus : c ≠ '+' := fun h => absurd (h ▸ hc) (by decide)
  have htake : (c :: cs).takeWhile Char.isDigit = c :: cs := by
    exact List.takeWhile_eq_self_iff.mpr hdigits
  have hdrop : (c :: cs).dropWhile
      (fun c => decide (c ∈ [' ', '\t', '\n', '\x0b', '\x0c', '\r'])) = c :: cs :=
    List.dropWhile_cons_of_neg (by simpa using hspace)
  unfold stoi
  rw [hdrop]
  dsimp only
  split
  · next h => exact absurd (List.cons.inj h).1 hminus
  · next h => exact absurd (List.cons.inj h).1 hplus
  · have hrange : (-2 ^ 31 ≤ (Nat.ofDigitChars 10 (c :: cs) 0 : ℤ) ∧
        (Nat.ofDigitChars 10 (c :: cs) 0 : ℤ) < 2 ^ 31) ↔
        Nat.ofDigitChars 10 (c :: cs) 0 < 2 ^ 31 := by
      omega
    simp only [htake, if_neg (List.cons_ne_nil c cs), Bool.false_eq_true, if_false, hrange]

theorem text_ne_empty (version : VersionText) : version.text ≠ "" := by
  obtain ⟨number, numbers, heq⟩ := List.exists_cons_of_ne_nil version.nonempty
  have hne : number ≠ [] := (version.digits number (heq ▸ List.mem_cons_self)).1
  intro hempty
  have htext : ['.'].intercalate version.numbers = [] := by
    rw [← String.toList_ofList (l := ['.'].intercalate version.numbers)]
    exact congrArg String.toList hempty
  rw [heq] at htext
  cases numbers with
  | nil => exact hne (List.intercalate_singleton.symm.trans htext)
  | cons next numbers =>
    rw [List.intercalate_cons_cons] at htext
    exact hne (List.append_eq_nil_iff.mp (List.append_eq_nil_iff.mp htext).1).1

/-- The number at a place of a version, if it is an `int`. -/
def VersionText.stored (version : VersionText) (i : ℕ) : ℕ :=
  if version.number i < 2 ^ 31 then version.number i else 0

/-- **A version text is read number by number.** -/
theorem parseVersion_text (version : VersionText) :
    parseVersion {} version.text =
      documentedInfo (version.stored 0) (version.stored 1) (version.stored 2) := by
  have hsplit : splitFrom '.' [] version.text.toList = version.numbers := by
    rw [VersionText.text, String.toList_ofList]
    refine splitFrom_intercalate fun number hnumber => ?_
    obtain ⟨hne, hdigits⟩ := version.digits number hnumber
    exact ⟨hne, fun hdot => absurd (hdigits '.' hdot) (by decide)⟩
  have hnumber : ∀ i, (((version.numbers[i]?).bind stoi).getD 0 : ℤ) = version.stored i := by
    intro i
    rw [VersionText.stored, VersionText.number]
    cases hget : version.numbers[i]? with
    | none => rfl
    | some number =>
      obtain ⟨hne, hdigits⟩ := version.digits number (List.mem_of_getElem? hget)
      rw [Option.bind_some, stoi_digits hne hdigits, Option.map_some, Option.getD_some]
      split <;> rfl
  have hjson : decide ((version.stored 0 : ℤ) ≥ 21) = decide (21 ≤ version.stored 0) :=
    decide_eq_decide.mpr (by omega)
  have hvector : decide ((version.stored 0 : ℤ) ≥ 23) = decide (23 ≤ version.stored 0) :=
    decide_eq_decide.mpr (by omega)
  have hserialize : (decide ((version.stored 0 : ℤ) > 23) ||
      decide ((version.stored 0 : ℤ) = 23) && decide ((version.stored 1 : ℤ) ≥ 4)) =
      decide (23 < version.stored 0 ∨ version.stored 0 = 23 ∧ 4 ≤ version.stored 1) := by
    rw [← Bool.decide_and, ← Bool.decide_or]
    exact decide_eq_decide.mpr (by omega)
  unfold parseVersion
  simp only [hsplit, hnumber, hjson, hvector, hserialize]
  rfl

/-- The number at a place that an attempt finds. -/
def VersionAttempt.stored (attempt : VersionAttempt) (i : ℕ) : ℕ :=
  if attempt.versionFull.isFailed then 0
  else (attempt.version?.map fun version => version.stored i).getD 0

/-- What an attempt finds. -/
def VersionAttempt.found (attempt : VersionAttempt) : OracleVersionInfo :=
  documentedInfo (attempt.stored 0) (attempt.stored 1) (attempt.stored 2)

theorem stored_of_isFailed {attempt : VersionAttempt} (h : attempt.versionFull.isFailed = true)
    (i : ℕ) : attempt.stored i = 0 :=
  if_pos h

theorem stored_of_not_isFailed {attempt : VersionAttempt}
    (h : attempt.versionFull.isFailed = false) (i : ℕ) :
    attempt.stored i = if attempt.number i < 2 ^ 31 then attempt.number i else 0 := by
  rw [VersionAttempt.stored, VersionAttempt.number, h, if_neg Bool.false_ne_true]
  cases attempt.version? with
  | none => rfl
  | some version => rfl

/-- Two version infos of different numbers differ. -/
theorem documentedInfo_inj {a b c a' b' c' : ℕ} :
    documentedInfo a b c = documentedInfo a' b' c' ↔ a = a' ∧ b = b' ∧ c = c' := by
  constructor
  · intro h
    exact ⟨Int.ofNat.inj (congrArg OracleVersionInfo.major h),
      Int.ofNat.inj (congrArg OracleVersionInfo.minor h),
      Int.ofNat.inj (congrArg OracleVersionInfo.patch h)⟩
  · rintro ⟨rfl, rfl, rfl⟩
    rfl

/-- **When an attempt finds what it should.** -/
theorem found_eq_iff (attempt : VersionAttempt) :
    attempt.found = documentedInfo (attempt.number 0) (attempt.number 1) (attempt.number 2) ↔
      attempt.Detectable := by
  have hplace : ∀ i, attempt.stored i = attempt.number i ↔
      (attempt.number i ≠ 0 →
        attempt.versionFull.isFailed = false ∧ attempt.number i < 2 ^ 31) := by
    intro i
    cases hfailed : attempt.versionFull.isFailed with
    | true =>
      rw [stored_of_isFailed hfailed]
      simp [eq_comm]
    | false =>
      rw [stored_of_not_isFailed hfailed, eq_self, true_and]
      split <;> omega
  rw [VersionAttempt.found, documentedInfo_inj, hplace 0, hplace 1, hplace 2]
  constructor
  · rintro ⟨h0, h1, h2⟩ i hi
    obtain rfl | rfl | rfl : i = 0 ∨ i = 1 ∨ i = 2 := by omega
    · exact h0
    · exact h1
    · exact h2
  · exact fun h => ⟨h 0 (by omega), h 1 (by omega), h 2 (by omega)⟩

/-! ## One call -/

/-- The version info is what the last attempt has found, and empty before the first. -/
structure VersionWorld.Consistent (w : VersionWorld) : Prop where
  detected : w.state.versionDetected = true →
    ∃ attempt, w.lastAttempt = some attempt ∧ w.state.versionInfo = attempt.found
  undetected : w.state.versionDetected = false →
    w.lastAttempt = none ∧ w.state.versionInfo = {}

theorem consistent_start (connectionString : String) (settings : OracleSettings) :
    (VersionWorld.start connectionString settings).Consistent where
  detected h := absurd h Bool.false_ne_true
  undetected _ := ⟨rfl, rfl⟩

/-- The version info after the queries of an attempt, whatever is written to `state`. -/
theorem versionInfo_of_attempt {state : OracleCatalogState} (h : state.versionInfo = {})
    (attempt : VersionAttempt) :
    (match versionText attempt.versionFull.queryAnswer attempt.productVersion.queryAnswer with
      | .ok text => if text = "" then state.versionInfo else parseVersion state.versionInfo text
      | .error _ => state.versionInfo) = attempt.found := by
  obtain ⟨versionFull, productVersion⟩ := attempt
  have hrow : ∀ version : VersionText,
      (if version.text = "" then {} else parseVersion {} version.text) =
        documentedInfo (version.stored 0) (version.stored 1) (version.stored 2) := fun version => by
    rw [if_neg (text_ne_empty version), parseVersion_text]
  rw [h]
  cases versionFull with
  | failed message => rfl
  | row version => exact hrow version
  | noRow =>
    cases productVersion with
    | failed message => rfl
    | noRow => rfl
    | row version => exact hrow version

/-- With a connection, the version is detected, whether the queries succeed or not. -/
theorem detectOracleVersion_of_connected {state state' : OracleCatalogState}
    {connect : Except String Unit} (hdetected : state.versionDetected = false)
    (hensure : state.ensureConnection connect = (state', .ok ())) (hempty : state'.versionInfo = {})
    (attempt : VersionAttempt) :
    state.detectOracleVersion connect attempt.versionFull.queryAnswer
        attempt.productVersion.queryAnswer =
      ({ state' with versionInfo := attempt.found, versionDetected := true }, .ok ()) := by
  rw [← versionInfo_of_attempt hempty attempt, detectOracleVersion, hdetected,
    if_neg Bool.false_ne_true, hensure]
  dsimp only
  cases versionText attempt.versionFull.queryAnswer attempt.productVersion.queryAnswer with
  | ok text => rfl
  | error e => rfl

/-- **What `DetectOracleVersion` does**: nothing if a version is detected or there is no
connection, and else an attempt. -/
theorem detectOracleVersion_cases {w : VersionWorld} (h : w.Consistent)
    (connect : Except String Unit) (attempt : VersionAttempt) :
    let result := w.state.detectOracleVersion connect attempt.versionFull.queryAnswer
      attempt.productVersion.queryAnswer
    (result.2 = .ok () ∧ result.1.versionDetected = true ∧ ∃ last,
      w.attemptAfter connect attempt = some last ∧ result.1.versionInfo = last.found) ∨
    (∃ e, result.2 = .error e) ∧ result.1.versionDetected = false ∧
      w.attemptAfter connect attempt = none ∧ result.1.versionInfo = {} := by
  intro result
  cases hdetected : w.state.versionDetected with
  | true =>
    have hresult : result = (w.state, .ok ()) := if_pos hdetected
    have hafter : w.attemptAfter connect attempt = w.lastAttempt := if_pos hdetected
    rw [hresult, hafter]
    exact Or.inl ⟨rfl, hdetected, h.detected hdetected⟩
  | false =>
    obtain ⟨hlast, hempty⟩ := h.undetected hdetected
    obtain ⟨state, -, hsame, hconnect⟩ := exists_ensureConnection w.state connect
    have hflag : state.versionDetected = false := hsame.versionDetected.trans hdetected
    have hinfo : state.versionInfo = {} := hsame.versionInfo.trans hempty
    rcases hconnect with ⟨e, hensure⟩ | hensure
    · have hresult : result = (state, .error e) := by
        simp only [result, detectOracleVersion, hdetected, hensure, Bool.false_eq_true, if_false]
      have hafter : w.attemptAfter connect attempt = none := by
        simp only [VersionWorld.attemptAfter, hdetected, hensure, hlast, Bool.false_eq_true,
          if_false]
      rw [hresult, hafter]
      exact Or.inr ⟨⟨e, rfl⟩, hflag, rfl, hinfo⟩
    · have hresult : result =
          ({ state with versionInfo := attempt.found, versionDetected := true }, .ok ()) :=
        detectOracleVersion_of_connected hdetected hensure hinfo attempt
      have hafter : w.attemptAfter connect attempt = some attempt := by
        simp only [VersionWorld.attemptAfter, hdetected, hensure, Bool.false_eq_true, if_false]
      rw [hresult, hafter]
      exact Or.inl ⟨rfl, rfl, attempt, rfl, rfl⟩

/-- `GetVersionInfo` returns what is detected then, unless there is no connection. -/
theorem getVersionInfo_eq (state : OracleCatalogState) (connect : Except String Unit)
    (versionFull productVersion : QueryAnswer) :
    state.getVersionInfo connect versionFull productVersion =
      ((state.detectOracleVersion connect versionFull productVersion).1,
        (state.detectOracleVersion connect versionFull productVersion).2.map fun _ =>
          (state.detectOracleVersion connect versionFull productVersion).1.versionInfo) := by
  rw [getVersionInfo]
  split
  · next hdetected => rw [detectOracleVersion, if_pos hdetected]; rfl
  · split
    · next heq => rw [heq]; rfl
    · next heq => rw [heq]; rfl

/-- **A call keeps a state consistent.** -/
theorem consistent_versionStep {w w' : VersionWorld} {call : VersionCall} (h : w.Consistent)
    (hstep : versionStep w call = some w') : w'.Consistent := by
  have hdetect : ∀ connect attempt returned, VersionWorld.Consistent
      { state := (w.state.detectOracleVersion connect attempt.versionFull.queryAnswer
          attempt.productVersion.queryAnswer).1
        lastAttempt := w.attemptAfter connect attempt
        returned := returned } := by
    intro connect attempt returned
    rcases detectOracleVersion_cases h connect attempt with ⟨-, hflag, hlast⟩ | ⟨-, hflag, hnone⟩
    · exact ⟨fun _ => hlast, fun hfalse => absurd (hflag.symm.trans hfalse) (by decide)⟩
    · exact ⟨fun htrue => absurd (hflag.symm.trans htrue) (by decide), fun _ => hnone⟩
  cases call with
  | detectOracleVersion connect attempt =>
    obtain rfl := Option.some.inj hstep
    exact hdetect connect attempt none
  | getVersionInfo connect attempt =>
    rw [versionStep, getVersionInfo_eq] at hstep
    obtain rfl := Option.some.inj hstep
    exact hdetect connect attempt _
  | clearCaches =>
    obtain rfl := Option.some.inj hstep
    exact ⟨fun htrue => absurd htrue Bool.false_ne_true, fun _ => ⟨rfl, rfl⟩⟩

theorem reports_iff_of_returned {w : VersionWorld} {last : VersionAttempt}
    (hlast : w.lastAttempt = some last) (hreturned : w.returned = some last.found) :
    w.Reports ↔ last.Detectable := by
  rw [← found_eq_iff]
  constructor
  · intro h
    obtain ⟨attempt, hattempt, hfound⟩ := h last.found hreturned
    obtain rfl := Option.some.inj (hlast.symm.trans hattempt)
    exact hfound
  · intro hfound info hinfo
    obtain rfl := Option.some.inj (hreturned.symm.trans hinfo)
    exact ⟨last, hlast, hfound⟩

/-- **What `GetVersionInfo` returns is right exactly if the attempt finds the version.** -/
theorem reports_versionStep_iff {w w' : VersionWorld} {call : VersionCall} (h : w.Consistent)
    (hstep : versionStep w call = some w') : w'.Reports ↔ Detected w call := by
  cases call with
  | detectOracleVersion connect attempt =>
    obtain rfl := Option.some.inj hstep
    exact ⟨fun _ => trivial, fun _ info hinfo => nomatch hinfo⟩
  | clearCaches =>
    obtain rfl := Option.some.inj hstep
    exact ⟨fun _ => trivial, fun _ info hinfo => nomatch hinfo⟩
  | getVersionInfo connect attempt =>
    rw [versionStep, getVersionInfo_eq] at hstep
    have hw' := Option.some.inj hstep
    rcases detectOracleVersion_cases h connect attempt with
      ⟨hok, -, last, hlast, hfound⟩ | ⟨⟨e, herror⟩, -, hnone, -⟩
    · have hlast' : w'.lastAttempt = some last := by rw [← hw', hlast]
      have hreturned : w'.returned = some last.found := by
        rw [← hw', hok, hfound]
        rfl
      rw [reports_iff_of_returned hlast' hreturned]
      constructor
      · intro hdetectable other hother
        obtain rfl := Option.some.inj (hlast.symm.trans hother)
        exact hdetectable
      · exact fun hdetected => hdetected last hlast
    · have hreturned : w'.returned = none := by
        rw [← hw', herror]
        rfl
      refine ⟨fun _ last hlast => ?_, fun _ info hinfo => ?_⟩
      · rw [hnone] at hlast
        cases hlast
      · rw [hreturned] at hinfo
        cases hinfo

/-! ## Runs -/

/-- **When the version is reported**: in every run, each `GetVersionInfo` that returns
reports the version exactly if the attempt it reports on finds it. -/
theorem reports_iff (connectionString : String) (settings : OracleSettings)
    (calls : List VersionCall) :
    (∀ w, Reached versionStep (.start connectionString settings) calls w → w.Reports) ↔
      Guarded versionStep Detected (.start connectionString settings) calls := by
  obtain ⟨w, hrun⟩ := exists_run_of_total versionStep_total
    (.start connectionString settings) calls
  exact guarded_iff_reached (fun _ _ _ h hstep => consistent_versionStep h hstep)
    (fun _ _ _ h _ hstep => reports_versionStep_iff h hstep)
    (consistent_start connectionString settings) (fun _ hinfo => nomatch hinfo) hrun

/-! ## A user who may not read `V$INSTANCE` -/

def version21 : VersionText where
  numbers := ["21".toList, "3".toList, "0".toList]
  nonempty := by decide
  digits := by simp [Char.isDigit]

/-- Oracle 21.3 is reported as no version, and without JSON. -/
theorem version21_not_reported : ∃ w, Reached versionStep (.start "" {})
    [.getVersionInfo (.ok ()) ⟨.failed "ORA-00942: table or view does not exist",
      .row version21⟩] w ∧ ¬ w.Reports := by
  refine ⟨_, Reached.of_run rfl, fun h => ?_⟩
  obtain ⟨attempt, hattempt, hinfo⟩ := h {} rfl
  obtain rfl := Option.some.inj hattempt
  exact absurd (congrArg OracleVersionInfo.major hinfo) (by decide)

end Catalog
end DuckdbOracle
