import DuckdbOracle.Duckdb.Value

/-!
# Reading a connection string

`Acquire` takes a connection string apart before it connects:

    user/password@connect_identifier

The user ends at the first slash, and the password at the first `@` from that slash
on.  Whatever stands behind it is the connect identifier, with all the slashes and
colons it may have.

`parseOracleConnectionString_eq_ok_iff` says which strings are read, and as what: a
string is read as a user, a password and an identifier exactly if it is these three
with the two delimiters between them, none is empty, the user has no slash and the
password no `@`.
-/

namespace DuckdbOracle
namespace Connection

/-- `std::string::find` of a character, from a position on. -/
def findFrom (text : List Char) (c : Char) (start : ℕ) : Option ℕ :=
  ((text.drop start).findIdx? (· = c)).map (start + ·)

/-- What a connection string says. -/
structure OracleCredentials where
  user : String
  password : String
  db : String
  deriving DecidableEq

/-- The text of the exception. -/
def invalidConnectionString : String :=
  "Invalid Oracle connection string. Expected user/password@connect_identifier"

/-- `ParseOracleConnectionString`. -/
def parseOracleConnectionString (connectionString : String) :
    Except String OracleCredentials :=
  let text := connectionString.toList
  let slashPos := findFrom text '/' 0
  let atPos := findFrom text '@' (slashPos.getD 0)
  match slashPos, atPos with
  | some slash, some at_ =>
    if slash = 0 ∨ at_ ≤ slash + 1 ∨ at_ = text.length - 1 then .error invalidConnectionString
    else .ok {
      user := String.ofList (text.take slash)
      password := String.ofList ((text.drop (slash + 1)).take (at_ - slash - 1))
      db := String.ofList (text.drop (at_ + 1)) }
  | _, _ => .error invalidConnectionString

/-! ## Finding a delimiter -/

/-- What stands before the character that is found, and what stands behind it. -/
theorem findFrom_zero_eq_some {text : List Char} {c : Char} {i : ℕ}
    (h : findFrom text c 0 = some i) :
    ∃ pre post, text = pre ++ c :: post ∧ c ∉ pre ∧ i = pre.length := by
  simp only [findFrom, List.drop_zero, Nat.zero_add, Option.map_id'] at h
  obtain ⟨hlt, hc, hbefore⟩ := List.findIdx?_eq_some_iff_getElem.mp h
  have hc : text[i] = c := of_decide_eq_true hc
  refine ⟨text.take i, text.drop (i + 1), ?_, fun hmem => ?_, ?_⟩
  · rw [← hc, List.getElem_cons_drop, List.take_append_drop]
  · obtain ⟨j, hj, hjc⟩ := List.mem_take_iff_getElem.mp hmem
    exact absurd (decide_eq_true hjc) (hbefore j (by omega))
  · rw [List.length_take, Nat.min_eq_left (by omega)]

/-- A character is found behind a text that does not have it. -/
theorem findFrom_zero_append {pre : List Char} {c : Char} (h : c ∉ pre) (post : List Char) :
    findFrom (pre ++ c :: post) c 0 = some pre.length := by
  have hnone : pre.findIdx? (· = c) = none := by
    rw [List.findIdx?_eq_none_iff]
    intro d hd
    exact decide_eq_false fun hdc => h (hdc ▸ hd)
  simp [findFrom, List.findIdx?_append, hnone, List.findIdx?_cons]

/-- Behind a prefix the search is that of the rest. -/
theorem findFrom_append (pre post : List Char) (c : Char) :
    findFrom (pre ++ post) c pre.length = (findFrom post c 0).map (pre.length + ·) := by
  simp [findFrom]

/-- A character that is not the first of the rest is found behind the first. -/
theorem findFrom_cons_of_ne {c d : Char} (h : d ≠ c) (text : List Char) :
    findFrom (d :: text) c 0 = (findFrom text c 0).map (1 + ·) := by
  simp [findFrom, List.findIdx?_cons, h, Nat.add_comm, Function.comp_def]

/-! ## Which strings are read, and as what -/

/-- The string of the credentials. -/
def OracleCredentials.text (c : OracleCredentials) : List Char :=
  c.user.toList ++ '/' :: (c.password.toList ++ '@' :: c.db.toList)

/-- Credentials that their own text tells apart. -/
structure OracleCredentials.Readable (c : OracleCredentials) : Prop where
  user_ne : c.user ≠ ""
  password_ne : c.password ≠ ""
  db_ne : c.db ≠ ""
  user : '/' ∉ c.user.toList
  password : '@' ∉ c.password.toList

theorem toList_ne_nil {s : String} (h : s ≠ "") : s.toList ≠ [] :=
  fun hnil => h (String.toList_eq_nil_iff.mp hnil)

/-- The search for the `@`, from the first slash on. -/
theorem findFrom_at (user post : List Char) :
    findFrom (user ++ '/' :: post) '@' user.length =
      (findFrom post '@' 0).map (user.length + 1 + ·) := by
  rw [findFrom_append, findFrom_cons_of_ne (by decide), Option.map_map]
  congr 1
  funext i
  exact (Nat.add_assoc user.length 1 i).symm

/-- The three parts of a text whose delimiters are found are cut where they are. -/
theorem parse_parts {s : String} {user password db : List Char}
    (hs : s.toList = user ++ '/' :: (password ++ '@' :: db)) (huser : '/' ∉ user)
    (hpassword : '@' ∉ password) :
    parseOracleConnectionString s =
      if user = [] ∨ password = [] ∨ db = [] then .error invalidConnectionString
      else .ok ⟨String.ofList user, String.ofList password, String.ofList db⟩ := by
  have hslash : findFrom s.toList '/' 0 = some user.length := by
    rw [hs, findFrom_zero_append huser]
  have hat : findFrom s.toList '@' user.length = some (user.length + 1 + password.length) := by
    rw [hs, findFrom_at, findFrom_zero_append hpassword, Option.map_some]
  have hlength : s.toList.length = user.length + 1 + (password.length + 1 + db.length) := by
    rw [hs]
    simp only [List.length_append, List.length_cons]
    omega
  have hcond : (user.length = 0 ∨ user.length + 1 + password.length ≤ user.length + 1 ∨
      user.length + 1 + password.length = s.toList.length - 1) ↔
        (user = [] ∨ password = [] ∨ db = []) := by
    rw [hlength, ← List.length_eq_zero_iff, ← List.length_eq_zero_iff, ← List.length_eq_zero_iff]
    omega
  have htake : s.toList.take user.length = user := by rw [hs, List.take_left]
  have hdrop : s.toList.drop (user.length + 1) = password ++ '@' :: db := by
    rw [hs, ← List.drop_drop, List.drop_left, List.drop_succ_cons, List.drop_zero]
  have hmiddle : (s.toList.drop (user.length + 1)).take
      (user.length + 1 + password.length - user.length - 1) = password := by
    rw [hdrop, show user.length + 1 + password.length - user.length - 1 = password.length by omega,
      List.take_left]
  have hend : s.toList.drop (user.length + 1 + password.length + 1) = db := by
    rw [show user.length + 1 + password.length + 1 = user.length + 1 + (password.length + 1) by
      omega, ← List.drop_drop, hdrop, ← List.drop_drop, List.drop_left, List.drop_succ_cons,
      List.drop_zero]
  simp only [parseOracleConnectionString, hslash, Option.getD_some, hat, if_congr hcond rfl rfl,
    htake, hmiddle, hend]

/-- A text that is read has its two delimiters. -/
theorem exists_parts_of_parse {s : String} {c : OracleCredentials}
    (h : parseOracleConnectionString s = .ok c) :
    ∃ user password db, s.toList = user ++ '/' :: (password ++ '@' :: db) ∧ '/' ∉ user ∧
      '@' ∉ password := by
  cases hslash : findFrom s.toList '/' 0 with
  | none => simp [parseOracleConnectionString, hslash] at h
  | some slash =>
    cases hat : findFrom s.toList '@' slash with
    | none => simp [parseOracleConnectionString, hslash, hat] at h
    | some at_ =>
      obtain ⟨user, post, hs, huser, rfl⟩ := findFrom_zero_eq_some hslash
      rw [hs, findFrom_at] at hat
      obtain ⟨j, hj, -⟩ := Option.map_eq_some_iff.mp hat
      obtain ⟨password, db, hpost, hpassword, -⟩ := findFrom_zero_eq_some hj
      exact ⟨user, password, db, by rw [hs, hpost], huser, hpassword⟩

/-- **A string is read as the credentials whose text it is**, if they are readable, and
otherwise not at all. -/
theorem parseOracleConnectionString_eq_ok_iff {s : String} {c : OracleCredentials} :
    parseOracleConnectionString s = .ok c ↔ s.toList = c.text ∧ c.Readable := by
  constructor
  · intro h
    obtain ⟨user, password, db, hs, huser, hpassword⟩ := exists_parts_of_parse h
    rw [parse_parts hs huser hpassword] at h
    split at h
    · cases h
    · next hne =>
      obtain ⟨hu, hp, hd⟩ : user ≠ [] ∧ password ≠ [] ∧ db ≠ [] := by
        simpa only [not_or] using hne
      obtain rfl := Except.ok.inj h
      refine ⟨by simpa only [OracleCredentials.text, String.toList_ofList] using hs, ?_⟩
      exact {
        user_ne := fun h => hu (String.ofList_eq_empty_iff.mp h)
        password_ne := fun h => hp (String.ofList_eq_empty_iff.mp h)
        db_ne := fun h => hd (String.ofList_eq_empty_iff.mp h)
        user := by simpa only [String.toList_ofList] using huser
        password := by simpa only [String.toList_ofList] using hpassword }
  · rintro ⟨hs, hc⟩
    rw [parse_parts hs hc.user hc.password, if_neg]
    · simp only [String.ofList_toList]
    · rintro (h | h | h)
      · exact toList_ne_nil hc.user_ne h
      · exact toList_ne_nil hc.password_ne h
      · exact toList_ne_nil hc.db_ne h

end Connection
end DuckdbOracle
