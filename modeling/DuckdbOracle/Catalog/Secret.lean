import DuckdbOracle.Catalog.Settings

/-!
# Oracle secrets

An `ATTACH` without a path takes its connection string from a secret of the
`SecretManager`: the one named by the `secret` option, or the default one of the
type `oracle`.  `BuildConnectionStringFromSecret` reads the parameters back out
of the key-value map, validates them and writes the EZConnect text

    user/password@host:port/service

The lookup in the `SecretManager` is DuckDB's; the model takes its answers as they
are at the time of the `ATTACH`.
-/

namespace DuckdbOracle
namespace Catalog

open Duckdb

/-- `OracleSecretParameters`. -/
structure OracleSecretParameters where
  host : String := "localhost"
  port : ℕ := 1521
  service : String := ""
  database : String := ""
  user : String := ""
  password : String := ""
  walletPath : String := ""
  deriving DecidableEq

/-- `KeyValueSecret::secret_map`; its keys are case-insensitive. -/
abbrev KeyValueSecret := List (String × Value)

/-- `KeyValueSecret::TryGetValue`. -/
def KeyValueSecret.tryGetValue (secret : KeyValueSecret) (key : String) : Option Value :=
  (secret.find? fun entry => lower entry.1 = lower key).map (·.2)

/-- How the messages of `ValidateOracleSecret` go on. -/
def secretExample : String :=
  "Example: CREATE SECRET (TYPE oracle, HOST 'localhost', PORT 1521, " ++
    "SERVICE 'XEPDB1', USER 'scott', PASSWORD 'tiger')"

/-- `ValidateOracleSecret`. -/
def validateOracleSecret (params : OracleSecretParameters) : Except String Unit :=
  if params.user = "" then
    .error ("Oracle secret requires USER parameter. " ++ secretExample)
  else if params.service = "" then
    .error ("Oracle secret requires SERVICE or DATABASE parameter. " ++ secretExample)
  else if params.password = "" then
    .error ("Oracle secret requires PASSWORD parameter. " ++ secretExample)
  else if params.port = 0 ∨ params.port > 65535 then
    .error ("Oracle secret: PORT must be between 1 and 65535, got " ++ toString params.port)
  else .ok ()

/-- A text parameter of the secret. -/
def KeyValueSecret.text (secret : KeyValueSecret) (key default : String) : String :=
  match secret.tryGetValue key with
  | some val => val.toString
  | none => default

/-- The port of the secret; a value that is no 64-bit integer makes `GetValue` throw. -/
def KeyValueSecret.port (secret : KeyValueSecret) : Except String ℕ :=
  match secret.tryGetValue "port" with
  | some val => val.getInt64.map castIdx
  | none => .ok 1521

/-- The parameters as `BuildConnectionStringFromSecret` reads them. -/
def parametersOfSecret (secret : KeyValueSecret) : Except String OracleSecretParameters := do
  let port ← secret.port
  return {
    host := secret.text "host" "localhost"
    port := port
    service := secret.text "service" (secret.text "database" "")
    user := secret.text "user" ""
    password := secret.text "password" ""
    walletPath := secret.text "wallet_path" "" }

/-- The EZConnect text of the parameters. -/
def OracleSecretParameters.connectionString (params : OracleSecretParameters) : String :=
  params.user ++ (if params.password = "" then "" else "/" ++ params.password) ++
    "@" ++ params.host ++ ":" ++ toString params.port ++ "/" ++ params.service

/-- `BuildConnectionStringFromSecret`. -/
def buildConnectionStringFromSecret (secret : KeyValueSecret) : Except String String := do
  let params ← parametersOfSecret secret
  validateOracleSecret params
  return params.connectionString

/-- What the `SecretManager` returns: the type of the secret, and its map if it is a
`KeyValueSecret`. -/
structure SecretEntry where
  type : String
  keyValue : Option KeyValueSecret

/-- The answers of the `SecretManager` at the time of an `ATTACH`. -/
structure SecretManager where
  getSecretByName : String → Option SecretEntry := fun _ => none
  /-- `LookupSecret(transaction, "", "oracle")`. -/
  lookupSecret : Option SecretEntry := none

/-- The secret an `ATTACH` with these options uses. -/
def selectSecret (secrets : SecretManager) (options : List (String × Value)) :
    Except String SecretEntry :=
  match options.lookup "secret" with
  | some val =>
    match secrets.getSecretByName val.toString with
    | some entry => .ok entry
    | none =>
      .error ("Secret '" ++ val.toString ++ "' not found. Create it with: CREATE SECRET " ++
        val.toString ++ " (TYPE oracle, HOST 'localhost', PORT 1521, SERVICE 'XEPDB1', " ++
        "USER 'user', PASSWORD 'pass')")
  | none =>
    match secrets.lookupSecret with
    | some entry => .ok entry
    | none =>
      .error ("No Oracle secret found. Create one with: CREATE SECRET (TYPE oracle, " ++
        "HOST 'localhost', PORT 1521, SERVICE 'XEPDB1', USER 'user', PASSWORD 'pass')")

/-- The connection string of an `ATTACH`: its path, or else its secret. -/
def resolveConnectionString (path : String) (secrets : SecretManager)
    (options : List (String × Value)) : Except String String :=
  if path ≠ "" then .ok path
  else do
    let entry ← selectSecret secrets options
    if entry.type ≠ "oracle" then
      .error ("Secret type mismatch. Expected 'oracle', got '" ++ entry.type ++ "'")
    else
      match entry.keyValue with
      | some secret => buildConnectionStringFromSecret secret
      | none => .error "Oracle secret must be a KeyValueSecret"

end Catalog
end DuckdbOracle
