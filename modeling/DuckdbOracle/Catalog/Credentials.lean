import DuckdbOracle.Catalog.Secret
import DuckdbOracle.Connection.ConnectionString

/-!
# From `CREATE SECRET` to the login

A secret goes through three functions before it logs in anywhere: `CREATE SECRET`
stores its options (`CreateOracleSecretFromConfig`), an `ATTACH` makes a connection
string of them (`BuildConnectionStringFromSecret`), and `Acquire` takes that string
apart again (`ParseOracleConnectionString`).

Nothing is lost in the store: what is read back out of it are the parameters that
were validated (`parametersOfSecret_storeSecret`).  The string, however, joins them
with `/` and `@` and escapes neither, while the reader takes the first of each.  So
the credentials survive exactly if the user has no slash and the password has no `@`
(`credentials_survive_iff`); any other delimiter in them, and any host, port and
service, does no harm.
-/

namespace DuckdbOracle
namespace Catalog

open Duckdb Connection

/-- `CreateSecretInput`: the options; their keys are case-insensitive. -/
structure CreateSecretInput where
  options : KeyValueSecret

/-- The port among the options. -/
def CreateSecretInput.port (input : CreateSecretInput) : Except String ℕ :=
  match input.options.tryGetValue "port" with
  | some val => do
    let portVal ← val.getInt64
    if portVal ≤ 0 ∨ portVal > 65535 then
      .error ("Oracle secret: PORT must be between 1 and 65535, got " ++ toString portVal)
    else return portVal.toNat
  | none => .ok 1521

/-- The service, for which `DATABASE` is another name. -/
def CreateSecretInput.service (input : CreateSecretInput) : String :=
  if input.options.text "service" "" = "" then input.options.text "database" ""
  else input.options.text "service" ""

/-- `ParseOracleSecret`. -/
def parseOracleSecret (input : CreateSecretInput) : Except String OracleSecretParameters := do
  let port ← input.port
  return {
    host := input.options.text "host" "localhost"
    port := port
    service := input.service
    database := input.options.text "database" ""
    user := input.options.text "user" ""
    password := input.options.text "password" ""
    walletPath := input.options.text "wallet_path" "" }

/-- The map that keeps the parameters. -/
def storeSecret (params : OracleSecretParameters) : KeyValueSecret :=
  [("host", .varchar params.host), ("port", .integer params.port),
    ("service", .varchar params.service), ("user", .varchar params.user),
    ("password", .varchar params.password)] ++
    if params.walletPath = "" then [] else [("wallet_path", .varchar params.walletPath)]

/-- `CreateOracleSecretFromConfig`. -/
def createOracleSecretFromConfig (input : CreateSecretInput) : Except String KeyValueSecret := do
  let params ← parseOracleSecret input
  validateOracleSecret params
  return storeSecret params

/-! ## What is stored is what was validated -/

/-- What `ValidateOracleSecret` lets through. -/
structure OracleSecretParameters.Valid (params : OracleSecretParameters) : Prop where
  user : params.user ≠ ""
  service : params.service ≠ ""
  password : params.password ≠ ""
  port : 0 < params.port ∧ params.port ≤ 65535

theorem validateOracleSecret_eq_ok_iff {params : OracleSecretParameters} :
    validateOracleSecret params = .ok () ↔ params.Valid := by
  unfold validateOracleSecret
  constructor
  · intro h
    split_ifs at h with huser hservice hpassword hport
    exact ⟨huser, hservice, hpassword, by omega⟩
  · rintro ⟨huser, hservice, hpassword, hport⟩
    rw [if_neg huser, if_neg hservice, if_neg hpassword, if_neg (by omega)]

/-- The two steps of an accepted `CREATE SECRET`. -/
theorem createOracleSecretFromConfig_eq_ok_iff {input : CreateSecretInput}
    {secret : KeyValueSecret} :
    createOracleSecretFromConfig input = .ok secret ↔
      ∃ params, parseOracleSecret input = .ok params ∧ params.Valid ∧
        secret = storeSecret params := by
  unfold createOracleSecretFromConfig
  constructor
  · intro h
    cases hparse : parseOracleSecret input with
    | error e => rw [hparse] at h; cases h
    | ok params =>
      rw [hparse] at h
      cases hvalid : validateOracleSecret params with
      | error e => simp [bind, Except.bind, hvalid] at h
      | ok _ =>
        simp only [bind, Except.bind, hvalid, pure, Except.pure] at h
        exact ⟨params, rfl, validateOracleSecret_eq_ok_iff.mp hvalid, (Except.ok.inj h).symm⟩
  · rintro ⟨params, hparse, hvalid, rfl⟩
    rw [hparse]
    simp only [bind, Except.bind, validateOracleSecret_eq_ok_iff.mpr hvalid, pure, Except.pure]

theorem tryGetValue_cons_self (key : String) (val : Value) (secret : KeyValueSecret) :
    KeyValueSecret.tryGetValue ((key, val) :: secret) key = some val := by
  rw [KeyValueSecret.tryGetValue, List.find?_cons_of_pos (by simp), Option.map_some]

theorem tryGetValue_cons_of_ne {key' key : String} (h : lower key' ≠ lower key) (val : Value)
    (secret : KeyValueSecret) :
    KeyValueSecret.tryGetValue ((key', val) :: secret) key = secret.tryGetValue key := by
  rw [KeyValueSecret.tryGetValue, List.find?_cons_of_neg (by simpa using h)]
  rfl

theorem text_of_some {secret : KeyValueSecret} {key default text : String}
    (h : secret.tryGetValue key = some (.varchar text)) : secret.text key default = text := by
  rw [KeyValueSecret.text, h]
  exact Value.toString.eq_5 text

/-- The keys of a stored secret are told apart. -/
theorem tryGetValue_storeSecret (params : OracleSecretParameters) :
    (storeSecret params).tryGetValue "host" = some (.varchar params.host) ∧
      (storeSecret params).tryGetValue "port" = some (.integer params.port) ∧
      (storeSecret params).tryGetValue "service" = some (.varchar params.service) ∧
      (storeSecret params).tryGetValue "user" = some (.varchar params.user) ∧
      (storeSecret params).tryGetValue "password" = some (.varchar params.password) ∧
      (storeSecret params).text "wallet_path" "" = params.walletPath := by
  have hwallet : (storeSecret params).tryGetValue "wallet_path" =
      if params.walletPath = "" then none else some (.varchar params.walletPath) := by
    unfold storeSecret
    simp only [List.cons_append, List.nil_append]
    iterate 5 rw [tryGetValue_cons_of_ne (by decide)]
    split
    · rfl
    · rw [tryGetValue_cons_self]
  refine ⟨?_, ?_, ?_, ?_, ?_, ?_⟩
  · exact tryGetValue_cons_self _ _ _
  · exact (tryGetValue_cons_of_ne (by decide) _ _).trans (tryGetValue_cons_self _ _ _)
  · unfold storeSecret
    simp only [List.cons_append, List.nil_append]
    iterate 2 rw [tryGetValue_cons_of_ne (by decide)]
    rw [tryGetValue_cons_self]
  · unfold storeSecret
    simp only [List.cons_append, List.nil_append]
    iterate 3 rw [tryGetValue_cons_of_ne (by decide)]
    rw [tryGetValue_cons_self]
  · unfold storeSecret
    simp only [List.cons_append, List.nil_append]
    iterate 4 rw [tryGetValue_cons_of_ne (by decide)]
    rw [tryGetValue_cons_self]
  · rw [KeyValueSecret.text, hwallet]
    split_ifs with hempty
    · exact hempty.symm
    · rfl

/-- A port in its range goes into a 64-bit integer and comes back. -/
theorem getInt64_port {port : ℕ} (h : port ≤ 65535) :
    (Value.getInt64 (.integer port)).map castIdx = .ok port := by
  have hint : isInt64 (port : ℤ) = true := by
    simp only [isInt64, Bool.and_eq_true, decide_eq_true_eq]
    omega
  have hcast : castIdx (port : ℤ) = port := by
    unfold castIdx
    omega
  rw [Value.getInt64, if_pos hint, Except.map, hcast]

/-- **Nothing is lost in the store**: the parameters that are read back are the ones
that were stored, but for the other name of the service. -/
theorem parametersOfSecret_storeSecret {params : OracleSecretParameters} (h : params.Valid) :
    parametersOfSecret (storeSecret params) = .ok { params with database := "" } := by
  obtain ⟨hhost, hport, hservice, huser, hpassword, hwallet⟩ := tryGetValue_storeSecret params
  -- from here on only what was looked up matters, not the map itself
  generalize storeSecret params = secret at *
  have hport : secret.port = .ok params.port := by
    rw [KeyValueSecret.port, hport]
    exact getInt64_port h.port.2
  unfold parametersOfSecret
  rw [hport, text_of_some hhost, text_of_some hservice, text_of_some huser,
    text_of_some hpassword, hwallet]
  rfl

/-- The stored secret makes the connection string of its parameters. -/
theorem buildConnectionString_storeSecret {params : OracleSecretParameters} (h : params.Valid) :
    buildConnectionStringFromSecret (storeSecret params) = .ok params.connectionString := by
  have hvalid : ({ params with database := "" } : OracleSecretParameters).Valid :=
    ⟨h.user, h.service, h.password, h.port⟩
  unfold buildConnectionStringFromSecret
  rw [parametersOfSecret_storeSecret h]
  simp only [bind, Except.bind, validateOracleSecret_eq_ok_iff.mpr hvalid, pure, Except.pure]
  rfl

/-! ## The round trip -/

/-- The credentials that the parameters ask for. -/
def OracleSecretParameters.credentials (params : OracleSecretParameters) : OracleCredentials where
  user := params.user
  password := params.password
  db := params.host ++ ":" ++ toString params.port ++ "/" ++ params.service

theorem toList_connectionString {params : OracleSecretParameters} (h : params.Valid) :
    params.connectionString.toList = params.credentials.text := by
  simp [OracleSecretParameters.connectionString, OracleSecretParameters.credentials,
    OracleCredentials.text, h.password]

/-- Of valid parameters only the delimiters decide. -/
theorem readable_credentials_iff {params : OracleSecretParameters} (h : params.Valid) :
    params.credentials.Readable ↔ '/' ∉ params.user.toList ∧ '@' ∉ params.password.toList := by
  constructor
  · intro hc
    exact ⟨hc.user, hc.password⟩
  · rintro ⟨huser, hpassword⟩
    refine ⟨h.user, h.password, fun hdb => ?_, huser, hpassword⟩
    have hnil := congrArg String.toList hdb
    simp [OracleSecretParameters.credentials] at hnil

/-- **Which credentials survive the secret.**  For all options that `CREATE SECRET`
accepts, the connection string of the stored secret is made, and it is read back as the
given user, the given password and `host:port/service` exactly if the user has no slash
and the password no `@`. -/
theorem credentials_survive_iff {input : CreateSecretInput} {secret : KeyValueSecret}
    {params : OracleSecretParameters} (h : createOracleSecretFromConfig input = .ok secret)
    (hparams : parseOracleSecret input = .ok params) :
    (∃ cs, buildConnectionStringFromSecret secret = .ok cs ∧
        parseOracleConnectionString cs = .ok {
          user := params.user
          password := params.password
          db := params.host ++ ":" ++ toString params.port ++ "/" ++ params.service }) ↔
      '/' ∉ params.user.toList ∧ '@' ∉ params.password.toList := by
  obtain ⟨params', hparse, hvalid, rfl⟩ := createOracleSecretFromConfig_eq_ok_iff.mp h
  rw [hparams] at hparse
  obtain rfl := Except.ok.inj hparse
  rw [buildConnectionString_storeSecret hvalid, ← readable_credentials_iff hvalid]
  constructor
  · rintro ⟨cs, hcs, hread⟩
    obtain rfl := Except.ok.inj hcs
    exact (parseOracleConnectionString_eq_ok_iff.mp hread).2
  · intro hreadable
    exact ⟨_, rfl, parseOracleConnectionString_eq_ok_iff.mpr
      ⟨toList_connectionString hvalid, hreadable⟩⟩

/-- The options of the message's own example. -/
def exampleOptions : CreateSecretInput where
  options := [("host", .varchar "localhost"), ("port", .integer 1521),
    ("service", .varchar "XEPDB1"), ("user", .varchar "scott"), ("password", .varchar "tiger")]

theorem credentials_survive_example :
    ∃ secret cs, createOracleSecretFromConfig exampleOptions = .ok secret ∧
      buildConnectionStringFromSecret secret = .ok cs ∧
      parseOracleConnectionString cs = .ok ⟨"scott", "tiger", "localhost:1521/XEPDB1"⟩ := by
  obtain ⟨cs, hbuild, hread⟩ :=
    (@credentials_survive_iff exampleOptions _ _ rfl rfl).mpr (by decide)
  exact ⟨_, cs, rfl, hbuild, hread⟩

/-- A password with an `@` in it. -/
def atOptions : CreateSecretInput where
  options := [("service", .varchar "XEPDB1"), ("user", .varchar "scott"),
    ("password", .varchar "ti@ger")]

/-- **A password with an `@` is cut**: the login goes to another host, with the first
half of the password. -/
theorem atPassword_cut :
    ∃ secret params, createOracleSecretFromConfig atOptions = .ok secret ∧
      parseOracleSecret atOptions = .ok params ∧
      (buildConnectionStringFromSecret secret).bind parseOracleConnectionString =
        .ok ⟨"scott", "ti", "ger@localhost:1521/XEPDB1"⟩ ∧
      ¬ ∃ cs, buildConnectionStringFromSecret secret = .ok cs ∧
        parseOracleConnectionString cs = .ok {
          user := params.user
          password := params.password
          db := params.host ++ ":" ++ toString params.port ++ "/" ++ params.service } := by
  refine ⟨_, _, rfl, rfl, rfl, ?_⟩
  rintro ⟨cs, hcs, hread⟩
  obtain rfl := Except.ok.inj hcs
  exact absurd hread (by decide)

end Catalog
end DuckdbOracle
