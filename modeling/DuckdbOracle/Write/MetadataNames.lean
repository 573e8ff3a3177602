import DuckdbOracle.Catalog.QueryTexts
import DuckdbOracle.Foundations.SqlTemplate
import DuckdbOracle.Write.Bind

/-!
# Can a name change a metadata query?

Every metadata query is a template with names in it, each of which is meant to be the
content of a string literal.  The queries of the catalog quote their names, and read the
result as a C string; the query of `OracleWriteBind` puts them between two quotes and
leaves the quotes inside as they are.  The types of `GetObjectName` are not names but a
piece of SQL, a list of literals; those of `ListObjects` are names, in a list with commas.

So a query of the catalog is the tokens of its template exactly if no name has a null
character, and the query of `OracleWriteBind` exactly if no name has a quote
(`keepsNames_iff`).
-/

namespace DuckdbOracle
namespace Write

open Duckdb Catalog QuotedText SqlTokens

/-! ## Queries and templates -/

/-- A metadata query, by what it is built from. -/
inductive MetadataQuery where
  | listTables (schema : String)
  | listObjects (limit : ℕ) (schema objectTypes : String)
  | resolveSynonym (schema synonymName : String)
  | getObjectName (schema objectName objectTypes : String)
  | getRealSchemaName (name : String)
  | loadColumns (schema table : String)
  | oracleWriteBind (schema object : String)

/-- The text that is sent to Oracle. -/
def MetadataQuery.text : MetadataQuery → String
  | .listTables schema => listTablesQuery schema
  | .listObjects limit schema objectTypes => listObjectsQuery limit schema objectTypes
  | .resolveSynonym schema synonymName => resolveSynonymQuery schema synonymName
  | .getObjectName schema objectName objectTypes =>
    getObjectNameQuery schema objectName objectTypes
  | .getRealSchemaName name => getRealSchemaNameQuery name
  | .loadColumns schema table => loadColumnsQuery schema table
  | .oracleWriteBind schema object => metadataQuery schema object

/-- A fixed text. -/
def fixed (s : String) : Piece := .text s.toList

/-- A name, which is meant to be the content of a literal. -/
def name (s : String) : Piece := .given [s.toList]

/-- The types in a comma-separated list, each trimmed. -/
def trimmedTypes (objectTypes : String) : List (List Char) :=
  (objectTypesOf objectTypes).map String.toList

/-- The types in a list of literals, which a closing parenthesis follows. -/
def literalTypes? (objectTypes : String) : Option (List (List Char)) :=
  (tokens? ((cString objectTypes).toList ++ [')'])).bind readLiterals?

/-- The types that `GetObjectName` is given. -/
def givenTypes (objectTypes : String) : List (List Char) :=
  (literalTypes? objectTypes).getD (trimmedTypes objectTypes)

/-- The template of `ListObjects`, up to its last name. -/
def listObjectsPieces (limit : ℕ) (schema objectTypes : String) : List Piece :=
  (if limit > 0 then [fixed "SELECT * FROM ("] else []) ++
    [fixed "SELECT object_name FROM all_objects WHERE owner = UPPER(", name schema,
      fixed ") AND object_type IN (", .given (trimmedTypes objectTypes)]

/-- The text of `ListObjects` behind the last name. -/
def listObjectsLast (limit : ℕ) : String :=
  ") ORDER BY object_name" ++
    if limit > 0 then ") WHERE ROWNUM <= " ++ toString limit else ""

/-- The template of `OracleWriteBind`, up to its last name. -/
def oracleWriteBindPieces (schema object : String) : List Piece :=
  [fixed "SELECT owner, table_name, column_name, data_type FROM all_tab_columns WHERE "] ++
    (if schema = "" then [fixed "owner = SYS_CONTEXT('USERENV', 'CURRENT_SCHEMA')"]
      else [fixed "owner = upper(", name schema, fixed ")"]) ++
    [fixed " AND ", fixed "(table_name = ", name object, fixed " OR table_name = upper(",
      name object]

/-- The template, up to its last name. -/
def MetadataQuery.pieces : MetadataQuery → List Piece
  | .listTables schema =>
    [fixed "SELECT table_name FROM all_tables WHERE owner = UPPER(", name schema]
  | .listObjects limit schema objectTypes => listObjectsPieces limit schema objectTypes
  | .resolveSynonym schema synonymName =>
    [fixed "SELECT table_owner, table_name FROM all_synonyms WHERE synonym_name = UPPER(",
      name synonymName, fixed ") AND (owner = UPPER(", name schema,
      fixed ") OR owner = 'PUBLIC') ORDER BY CASE WHEN owner = UPPER(", name schema]
  | .getObjectName schema objectName _ =>
    [fixed "SELECT object_name FROM all_objects WHERE owner = UPPER(", name schema,
      fixed ") AND UPPER(object_name) = UPPER(", name objectName]
  | .getRealSchemaName realName =>
    [fixed "SELECT username FROM all_users WHERE UPPER(username) = UPPER(", name realName]
  | .loadColumns schema table =>
    [fixed "SELECT column_name, data_type, data_length, data_precision, data_scale, nullable FROM ",
      fixed "all_tab_columns WHERE owner = UPPER(", name schema,
      fixed ") AND table_name = UPPER(", name table]
  | .oracleWriteBind schema object => oracleWriteBindPieces schema object

/-- The text behind the last name. -/
def MetadataQuery.last : MetadataQuery → String
  | .listTables _ => ") ORDER BY table_name"
  | .listObjects limit _ _ => listObjectsLast limit
  | .resolveSynonym _ _ => ") THEN 0 ELSE 1 END"
  | .getObjectName _ _ objectTypes => ") AND object_type IN (" ++ cString objectTypes ++ ")"
  | .getRealSchemaName _ => ")"
  | .loadColumns _ _ => ") ORDER BY column_id"
  | .oracleWriteBind _ _ => ")) ORDER BY owner, table_name, column_id"

/-- What the text behind the last name is meant to be. -/
def MetadataQuery.lastTokens : MetadataQuery → List Token
  | .getObjectName _ _ objectTypes =>
    (fixed ") AND object_type IN (").tokens ++
      (literalList (givenTypes objectTypes) ++ [.symbol ')'])
  | q => (fixed q.last).tokens

/-- **The query is the fixed tokens of its template, with the names as the contents of its
literals.** -/
def KeepsNames (q : MetadataQuery) : Prop :=
  tokens? q.text.toList = some (templateTokens q.pieces ++ q.lastTokens)

/-- No name of the catalog has a null character, the types of `GetObjectName` are a list of
literals, and no name of `OracleWriteBind` has a quote. -/
def PlainNames : MetadataQuery → Prop
  | .listTables schema => nullChar ∉ schema.toList
  | .listObjects _ schema objectTypes =>
    nullChar ∉ schema.toList ∧ nullChar ∉ objectTypes.toList
  | .resolveSynonym schema synonymName =>
    nullChar ∉ schema.toList ∧ nullChar ∉ synonymName.toList
  | .getObjectName schema objectName objectTypes =>
    nullChar ∉ schema.toList ∧ nullChar ∉ objectName.toList ∧ (literalTypes? objectTypes).isSome
  | .getRealSchemaName name => nullChar ∉ name.toList
  | .loadColumns schema table => nullChar ∉ schema.toList ∧ nullChar ∉ table.toList
  | .oracleWriteBind schema object => '\'' ∉ schema.toList ∧ '\'' ∉ object.toList

/-! ## How names are enclosed -/

/-- Quoted, and read as a C string. -/
def encloseC (ss : List (List Char)) : List Char := (quoteList ss).takeWhile (· ≠ nullChar)

/-- Between two quotes. -/
def encloseRaw : List (List Char) → List Char
  | [s] => '\'' :: (s ++ ['\''])
  | ss => quoteList ss

/-- How a query encloses its names. -/
def MetadataQuery.enclose : MetadataQuery → List (List Char) → List Char
  | .oracleWriteBind _ _ => encloseRaw
  | _ => encloseC

/-- The character that makes a difference. -/
def MetadataQuery.special : MetadataQuery → Char
  | .oracleWriteBind _ _ => '\''
  | _ => nullChar

theorem encloseC_eq_iff {ss : List (List Char)} :
    encloseC ss = quoteList ss ↔ nullChar ∉ quoteList ss := by
  rw [encloseC, List.takeWhile_eq_self_iff]
  constructor
  · exact fun h hmem => of_decide_eq_true (h nullChar hmem) rfl
  · exact fun h c hc => decide_eq_true fun heq => h (heq ▸ hc)

theorem loses_encloseC : Loses nullChar encloseC := by
  intro ss hne
  have hmem : nullChar ∈ quoteList ss := by
    by_contra hnot
    exact hne (encloseC_eq_iff.mpr hnot)
  have hzero : (encloseC ss).count nullChar = 0 := by
    refine List.count_eq_zero.mpr fun h => ?_
    exact of_decide_eq_true (@List.mem_takeWhile_imp _ (fun c => decide (c ≠ nullChar)) _ _ h) rfl
  rw [hzero]
  exact List.count_pos_iff.mpr hmem

theorem encloseRaw_eq_iff {s : List Char} :
    encloseRaw [s] = quoteList [s] ↔ '\'' ∉ s := by
  constructor
  · intro h hmem
    have hcount := congrArg (List.count '\'') h
    have hpos := List.count_pos_iff.mpr hmem
    rw [quoteList, count_quote, encloseRaw, List.count_cons_self, List.count_append,
      List.count_singleton_self] at hcount
    omega
  · intro h
    rw [quoteList, quote, double_of_not_mem h]
    rfl

theorem loses_encloseRaw : Loses '\'' encloseRaw := by
  intro ss hne
  match ss, hne with
  | [], hne => exact absurd rfl hne
  | [s], hne =>
    have hmem : '\'' ∈ s := by
      by_contra hnot
      exact hne (encloseRaw_eq_iff.mpr hnot)
    have hpos := List.count_pos_iff.mpr hmem
    rw [quoteList, count_quote, encloseRaw, List.count_cons_self, List.count_append,
      List.count_singleton_self]
    omega
  | s :: t :: ss, hne => exact absurd rfl hne

theorem loses_enclose (q : MetadataQuery) : Loses q.special q.enclose := by
  cases q with
  | oracleWriteBind schema object => exact loses_encloseRaw
  | _ => exact loses_encloseC

/-- A quoted name has the null characters that the name has. -/
theorem nullChar_mem_quoteList {ss : List (List Char)} :
    nullChar ∈ quoteList ss ↔ ∃ s ∈ ss, nullChar ∈ s := by
  have hquote : ∀ s : List Char, nullChar ∈ quote '\'' s ↔ nullChar ∈ s :=
    fun s => mem_quote (by decide) s
  induction ss with
  | nil => simp [quoteList]
  | cons s ss ih =>
    cases ss with
    | nil => simp [quoteList, hquote]
    | cons t ss =>
      have hne : nullChar ≠ ',' := by decide
      rw [quoteList, List.mem_append, List.mem_cons, hquote, or_iff_right hne,
        List.exists_mem_cons_iff]
      exact or_congr_right ih

/-! ## The texts are the templates, filled -/

theorem toList_sqlArgument (s : String) : (sqlArgument s).toList = encloseC [s.toList] := by
  rw [sqlArgument, toList_cString, sqlString, String.toList_ofList]
  rfl

theorem toList_typesSql (objectTypes : String) :
    (typesSql objectTypes).toList = quoteList (trimmedTypes objectTypes) := by
  unfold typesSql trimmedTypes
  induction objectTypesOf objectTypes with
  | nil => rfl
  | cons t ts ih =>
    cases ts with
    | nil => exact String.toList_ofList
    | cons u ts =>
      have hcomma : ",".toList = [','] := rfl
      simp only [List.map_cons] at ih ⊢
      rw [join, String.toList_append, String.toList_append, ih, hcomma, List.append_assoc]
      exact congrArg (· ++ _) String.toList_ofList

theorem fill_concat (enclose : List (List Char) → List Char) (pieces : List Piece)
    (piece : Piece) :
    fill enclose (pieces ++ [piece]) = fill enclose pieces ++ piece.fill enclose := by
  rw [fill, List.flatMap_append, List.flatMap_singleton]
  rfl

/-- A text that is a template, filled. -/
def Filled (enclose : List (List Char) → List Char) (s : String) (pieces : List Piece) : Prop :=
  s.toList = fill enclose pieces

theorem filled_fixed (enclose : List (List Char) → List Char) (s : String) :
    Filled enclose s [fixed s] := (List.append_nil _).symm

/-- The next part of a template. -/
theorem Filled.append {enclose : List (List Char) → List Char} {s t : String}
    {pieces : List Piece} (h : Filled enclose s pieces) {piece : Piece}
    (ht : t.toList = piece.fill enclose) : Filled enclose (s ++ t) (pieces ++ [piece]) := by
  rw [Filled, String.toList_append, h, ht, fill_concat]

theorem Filled.text {enclose : List (List Char) → List Char} {s : String}
    {pieces : List Piece} (h : Filled enclose s pieces) (t : String) :
    Filled enclose (s ++ t) (pieces ++ [fixed t]) := h.append rfl

theorem Filled.argument {s : String} {pieces : List Piece} (h : Filled encloseC s pieces)
    (t : String) : Filled encloseC (s ++ sqlArgument t) (pieces ++ [name t]) :=
  h.append (toList_sqlArgument t)

/-- The last text. -/
theorem Filled.last {enclose : List (List Char) → List Char} {s : String}
    {pieces : List Piece} (h : Filled enclose s pieces) (t : String) :
    (s ++ t).toList = fill enclose pieces ++ t.toList := by
  rw [String.toList_append, h]

/-- A filled template and the quote that opens the next name. -/
def Opened (s : String) (pieces : List Piece) : Prop :=
  s.toList = fill encloseRaw pieces ++ ['\'']

theorem Filled.opened {s t : String} {pieces : List Piece} (h : Filled encloseRaw s pieces)
    {a : String} (ht : t.toList = a.toList ++ ['\'']) : Opened (s ++ t) (pieces ++ [fixed a]) := by
  rw [Opened, String.toList_append, h, ht, fill_concat, List.append_assoc]
  rfl

/-- The name, and what begins with the quote that closes it. -/
theorem Opened.closed {s closing : String} {pieces : List Piece} (h : Opened s pieces)
    {rest : List Char} (hclosing : closing.toList = '\'' :: rest) (t : String) :
    (s ++ t ++ closing).toList = fill encloseRaw (pieces ++ [name t]) ++ rest := by
  have hname : (name t).fill encloseRaw ++ rest = ['\''] ++ (t.toList ++ '\'' :: rest) := by
    show '\'' :: (t.toList ++ ['\''] ++ rest) = '\'' :: (t.toList ++ '\'' :: rest)
    rw [List.append_assoc, List.singleton_append]
  rw [String.toList_append, String.toList_append, h, hclosing, fill_concat, List.append_assoc,
    List.append_assoc, List.append_assoc, hname]

theorem Opened.opened {s closing b : String} {pieces : List Piece} (h : Opened s pieces)
    (hclosing : closing.toList = '\'' :: (b.toList ++ ['\''])) (t : String) :
    Opened (s ++ t ++ closing) (pieces ++ [name t] ++ [fixed b]) := by
  rw [Opened, h.closed hclosing, fill_concat _ (pieces ++ [name t]), List.append_assoc]
  rfl

/-- A part with one name in it. -/
theorem Filled.between {s opening closing a b : String} {pieces : List Piece}
    (h : Filled encloseRaw s pieces) (hopening : opening.toList = a.toList ++ ['\''])
    (hclosing : closing.toList = '\'' :: b.toList) (t : String) :
    Filled encloseRaw (s ++ (opening ++ t ++ closing))
      (pieces ++ [fixed a] ++ [name t] ++ [fixed b]) := by
  have hassoc : s ++ (opening ++ t ++ closing) = s ++ opening ++ t ++ closing := by
    simp only [String.append_assoc]
  rw [Filled, hassoc, (h.opened hopening).closed hclosing, fill_concat _ (_ ++ [name t])]
  rfl

/-- A template with a second one in it. -/
theorem Filled.inner {enclose : List (List Char) → List Char} {s a b c d : String}
    {pieces : List Piece} (h : Filled enclose (s ++ a ++ b ++ c ++ d) pieces) (e f g : String) :
    (s ++ (a ++ b ++ c ++ d ++ e) ++ f ++ g).toList =
      fill enclose pieces ++ (e ++ (f ++ g)).toList := by
  have hassoc : s ++ (a ++ b ++ c ++ d ++ e) ++ f ++ g =
      s ++ a ++ b ++ c ++ d ++ (e ++ (f ++ g)) := by
    simp only [String.append_assoc]
  rw [hassoc, h.last]

/-- A text has no null character if its parts have none. -/
theorem not_mem_append {s t : String} (hs : nullChar ∉ s.toList) (ht : nullChar ∉ t.toList) :
    nullChar ∉ (s ++ t).toList := by
  rw [String.toList_append, List.mem_append]
  exact fun h => h.elim hs ht

theorem not_mem_ofList {s : String} {chars : List Char} (hs : s = String.ofList chars)
    (h : nullChar ∉ chars) : nullChar ∉ s.toList := by
  rwa [hs, String.toList_ofList]

/-- The query of `ListObjects` for all objects is a C string already. -/
theorem cString_allObjectsQuery (schema objectTypes : String) :
    cString (allObjectsQuery schema objectTypes) = allObjectsQuery schema objectTypes := by
  have hstart := @not_mem_ofList "SELECT object_name FROM all_objects WHERE owner = UPPER(" _
    rfl (by decide)
  have hmiddle := @not_mem_ofList ") AND object_type IN (" _ rfl (by decide)
  have hend := @not_mem_ofList ") ORDER BY object_name" _ rfl (by decide)
  have htypes := not_mem_cString (typesSql objectTypes)
  exact cString_eq (not_mem_append (not_mem_append (not_mem_append (not_mem_append hstart
    (not_mem_cString _)) hmiddle) htypes) hend)

theorem toList_listObjectsQuery (limit : ℕ) (schema objectTypes : String) :
    (listObjectsQuery limit schema objectTypes).toList =
      fill encloseC (listObjectsPieces limit schema objectTypes) ++
        (listObjectsLast limit).toList := by
  have hstart := filled_fixed encloseC
  have htypes : (cString (typesSql objectTypes)).toList =
      Piece.fill encloseC (.given (trimmedTypes objectTypes)) := by
    rw [toList_cString, toList_typesSql]
    rfl
  unfold listObjectsQuery listObjectsPieces listObjectsLast
  by_cases hlimit : limit > 0
  · rw [if_pos hlimit, if_pos hlimit, if_pos hlimit, cString_allObjectsQuery]
    exact (((((hstart _).text _).argument schema).text _).append htypes).inner _ _ _
  · rw [if_neg hlimit, if_neg hlimit, if_neg hlimit, String.append_empty]
    exact ((((hstart _).argument schema).text _).append htypes).last _

theorem toList_metadataQuery (schema object : String) :
    (metadataQuery schema object).toList =
      fill encloseRaw (oracleWriteBindPieces schema object) ++
        ")) ORDER BY owner, table_name, column_id".toList := by
  have hstart := filled_fixed encloseRaw
  have htable : "(table_name = '".toList = "(table_name = ".toList ++ ['\''] :=
    toList_of_append rfl rfl
  have hor : "' OR table_name = upper('".toList =
      '\'' :: (" OR table_name = upper(".toList ++ ['\'']) := rfl
  have hend : ("'))" ++ " ORDER BY owner, table_name, column_id").toList =
      '\'' :: ")) ORDER BY owner, table_name, column_id".toList := rfl
  have hobject : ∀ {s : String} {pieces : List Piece}, Filled encloseRaw s pieces →
      (s ++ " AND " ++ "(table_name = '" ++ object ++ "' OR table_name = upper('" ++ object ++
        "'))" ++ " ORDER BY owner, table_name, column_id").toList =
      fill encloseRaw (pieces ++ [fixed " AND "] ++ [fixed "(table_name = "] ++ [name object] ++
        [fixed " OR table_name = upper("] ++ [name object]) ++
        ")) ORDER BY owner, table_name, column_id".toList := by
    intro s pieces h
    rw [String.append_assoc]
    exact (((h.text " AND ").opened htable).opened hor object).closed hend object
  unfold metadataQuery oracleWriteBindPieces
  by_cases hempty : schema = ""
  · rw [if_pos hempty, if_pos hempty]
    exact hobject ((hstart _).text _)
  · have howner : "owner = upper('".toList = "owner = upper(".toList ++ ['\''] :=
      toList_of_append rfl rfl
    have hclose : "')".toList = '\'' :: ")".toList := rfl
    rw [if_neg hempty, if_neg hempty]
    exact hobject ((hstart _).between howner hclose schema)

/-- **What is sent is the template**, filled with the names as they are enclosed. -/
theorem toList_text (q : MetadataQuery) :
    q.text.toList = fill q.enclose q.pieces ++ q.last.toList := by
  have hstart := filled_fixed encloseC
  cases q with
  | listTables schema => exact ((hstart _).argument schema).last _
  | listObjects limit schema objectTypes => exact toList_listObjectsQuery limit schema objectTypes
  | resolveSynonym schema synonymName =>
    exact (((((hstart _).argument synonymName).text _).argument schema).text _).argument schema
      |>.last _
  | getObjectName schema objectName objectTypes =>
    have hnamed := (((hstart "SELECT object_name FROM all_objects WHERE owner = UPPER(").argument
      schema).text ") AND UPPER(object_name) = UPPER(").argument objectName
    have hlast := hnamed.last (") AND object_type IN (" ++ cString objectTypes ++ ")")
    rw [← String.append_assoc, ← String.append_assoc] at hlast
    exact hlast
  | getRealSchemaName realName => exact ((hstart _).argument realName).last _
  | loadColumns schema table =>
    exact (((((hstart _).text _).argument schema).text _).argument table).last _
  | oracleWriteBind schema object => exact toList_metadataQuery schema object

/-! ## The templates -/

theorem closed_listObjectsPieces (limit : ℕ) (schema objectTypes : String) :
    Closed nullChar (listObjectsPieces limit schema objectTypes) := by
  have hall : Closed nullChar [fixed "SELECT object_name FROM all_objects WHERE owner = UPPER(",
      name schema, fixed ") AND object_type IN (", .given (trimmedTypes objectTypes)] :=
    .pair (.of_string rfl (by decide)) nofun
      (.pair (.of_string rfl (by decide)) nofun .nil)
  unfold listObjectsPieces
  by_cases hlimit : limit > 0
  · rw [if_pos hlimit]
    exact .text (.of_string rfl (by decide)) hall
  · rw [if_neg hlimit]
    exact hall

theorem closed_oracleWriteBindPieces (schema object : String) :
    Closed '\'' (oracleWriteBindPieces schema object) := by
  have hobject : Closed '\'' [fixed " AND ", fixed "(table_name = ", name object,
      fixed " OR table_name = upper(", name object] :=
    .text (.of_string rfl (by decide)) (.pair (.of_string rfl (by decide)) nofun
      (.pair (.of_string rfl (by decide)) nofun .nil))
  unfold oracleWriteBindPieces
  refine .text (.of_string rfl (by decide +kernel)) ?_
  by_cases hempty : schema = ""
  · rw [if_pos hempty]
    exact .text (.of_string rfl (by decide)) hobject
  · rw [if_neg hempty]
    exact .pair (.of_string rfl (by decide)) nofun
      (.text (.of_string rfl (by decide)) hobject)

/-- **Every template is fixed texts with names between them.** -/
theorem closed_pieces (q : MetadataQuery) : Closed q.special q.pieces := by
  cases q with
  | listTables schema =>
    show Closed nullChar _
    exact .pair (.of_string rfl (by decide)) nofun .nil
  | listObjects limit schema objectTypes => exact closed_listObjectsPieces limit schema objectTypes
  | resolveSynonym schema synonymName =>
    show Closed nullChar _
    exact .pair (.of_string rfl (by decide +kernel)) nofun
      (.pair (.of_string rfl (by decide)) nofun
        (.pair (.of_string rfl (by decide)) nofun .nil))
  | getObjectName schema objectName objectTypes =>
    show Closed nullChar _
    exact .pair (.of_string rfl (by decide)) nofun
      (.pair (.of_string rfl (by decide)) nofun .nil)
  | getRealSchemaName realName =>
    show Closed nullChar _
    exact .pair (.of_string rfl (by decide)) nofun .nil
  | loadColumns schema table =>
    show Closed nullChar _
    exact .text (.of_string rfl (by decide +kernel))
      (.pair (.of_string rfl (by decide)) nofun
        (.pair (.of_string rfl (by decide)) nofun .nil))
  | oracleWriteBind schema object => exact closed_oracleWriteBindPieces schema object

theorem ends_listObjectsLast (limit : ℕ) : Ends nullChar (listObjectsLast limit).toList := by
  unfold listObjectsLast
  by_cases hlimit : limit > 0
  · have hdigits : (toString limit).toList = Nat.toDigits 10 limit := by
      rw [Nat.toString_eq_repr, Nat.toList_repr]
    have htext : (") ORDER BY object_name" ++ (") WHERE ROWNUM <= " ++ toString limit)).toList =
        ") ORDER BY object_name) WHERE ROWNUM <= ".toList ++ Nat.toDigits 10 limit := by
      rw [← String.append_assoc, String.toList_append, hdigits]
      rfl
    rw [if_pos hlimit, htext]
    exact (Separates.of_string rfl (by decide)).append_word Nat.toDigits_ne_nil
      isWordChar_toDigits
  · rw [if_neg hlimit, String.append_empty]
    exact .of_string rfl (by decide)

/-! ## The given strings of a template -/

/-- All strings that a template is given are enclosed as quoting would do it. -/
def Quoted (enclose : List (List Char) → List Char) (pieces : List Piece) : Prop :=
  ∀ ss, Piece.given ss ∈ pieces → enclose ss = quoteList ss

theorem quoted_fixed {enclose : List (List Char) → List Char} {s : String}
    {pieces : List Piece} : Quoted enclose (fixed s :: pieces) ↔ Quoted enclose pieces := by
  constructor
  · exact fun h ss hmem => h ss (List.mem_cons_of_mem _ hmem)
  · intro h ss hmem
    rcases List.mem_cons.mp hmem with heq | hrest
    · exact nomatch heq
    · exact h ss hrest

theorem quoted_given {enclose : List (List Char) → List Char} {contents : List (List Char)}
    {pieces : List Piece} : Quoted enclose (.given contents :: pieces) ↔
      enclose contents = quoteList contents ∧ Quoted enclose pieces := by
  constructor
  · exact fun h => ⟨h contents List.mem_cons_self, fun ss hmem =>
      h ss (List.mem_cons_of_mem _ hmem)⟩
  · rintro ⟨hfirst, hrest⟩ ss hmem
    rcases List.mem_cons.mp hmem with heq | hmem
    · obtain rfl := Piece.given.inj heq
      exact hfirst
    · exact hrest ss hmem

theorem quoted_nil (enclose : List (List Char) → List Char) : Quoted enclose [] :=
  fun _ hmem => absurd hmem List.not_mem_nil

theorem encloseC_name_iff {s : String} :
    encloseC [s.toList] = quoteList [s.toList] ↔ nullChar ∉ s.toList := by
  rw [encloseC_eq_iff, nullChar_mem_quoteList]
  simp only [List.mem_singleton, exists_eq_left]

theorem quoted_nameC {s : String} {pieces : List Piece} :
    Quoted encloseC (name s :: pieces) ↔ nullChar ∉ s.toList ∧ Quoted encloseC pieces :=
  quoted_given.trans (and_congr_left' encloseC_name_iff)

theorem quoted_nameRaw {s : String} {pieces : List Piece} :
    Quoted encloseRaw (name s :: pieces) ↔ '\'' ∉ s.toList ∧ Quoted encloseRaw pieces :=
  quoted_given.trans (and_congr_left' encloseRaw_eq_iff)

/-- The trimmed types have the null characters of the list they are in. -/
theorem encloseC_types_iff {objectTypes : String} :
    encloseC (trimmedTypes objectTypes) = quoteList (trimmedTypes objectTypes) ↔
      nullChar ∉ objectTypes.toList := by
  rw [encloseC_eq_iff, nullChar_mem_quoteList, nullChar_mem_objectTypes, trimmedTypes]
  simp only [List.mem_map, exists_exists_and_eq_and]

/-! ## When names are kept -/

theorem keepsNames_iff_of_tokens (q : MetadataQuery) (hhead : q.last.toList.head? ≠ some '\'')
    (hcount : q.last.toList.count q.special ≤ (texts q.lastTokens).count q.special) :
    KeepsNames q ↔ Quoted q.enclose q.pieces ∧ tokens? q.last.toList = some q.lastTokens := by
  rw [KeepsNames, toList_text]
  exact tokens?_fill_iff (loses_enclose q) (closed_pieces q) hhead hcount

theorem keepsNames_iff_of_ends (q : MetadataQuery) (hends : Ends q.special q.last.toList)
    (hlast : q.lastTokens = (fixed q.last).tokens) :
    KeepsNames q ↔ Quoted q.enclose q.pieces := by
  rw [KeepsNames, toList_text, hlast]
  exact tokens?_fill_iff_of_ends (loses_enclose q) (closed_pieces q) hends

/-- The list of types of `GetObjectName`. -/
theorem tokens?_types_iff {objectTypes : String} :
    tokens? ((cString objectTypes).toList ++ [')']) =
        some (literalList (givenTypes objectTypes) ++ [.symbol ')']) ↔
      (literalTypes? objectTypes).isSome := by
  constructor
  · intro h
    rw [literalTypes?, h, Option.bind_some, readLiterals?_literalList]
    rfl
  · intro h
    obtain ⟨ss, hss⟩ := Option.isSome_iff_exists.mp h
    obtain ⟨ts, hts, hread⟩ := Option.bind_eq_some_iff.mp hss
    rw [hts, eq_of_readLiterals? hread, givenTypes, hss, Option.getD_some]

theorem keepsNames_getObjectName (schema objectName objectTypes : String) :
    KeepsNames (.getObjectName schema objectName objectTypes) ↔
      PlainNames (.getObjectName schema objectName objectTypes) := by
  have hsep : Separates nullChar ") AND object_type IN (".toList :=
    .of_string rfl (by decide)
  have hlast : (") AND object_type IN (" ++ cString objectTypes ++ ")").toList =
      ") AND object_type IN (".toList ++ ((cString objectTypes).toList ++ [')']) := by
    rw [String.toList_append, String.toList_append, List.append_assoc]
    rfl
  have hhead : (") AND object_type IN (" ++ cString objectTypes ++ ")").toList.head? ≠
      some '\'' := by
    rw [hlast, List.head?_append_of_ne_nil _ hsep.ne_nil]
    exact hsep.head
  have hnone : nullChar ∉ (") AND object_type IN (" ++ cString objectTypes ++ ")").toList :=
    not_mem_append (not_mem_append (not_mem_ofList rfl (by decide)) (not_mem_cString _))
      (not_mem_ofList rfl (by decide))
  have hcount : ∀ ts, (") AND object_type IN (" ++ cString objectTypes ++ ")").toList.count
      nullChar ≤ (texts ts).count nullChar := by
    intro ts
    rw [List.count_eq_zero.mpr hnone]
    exact Nat.zero_le _
  have htokens : tokens? (") AND object_type IN (" ++ cString objectTypes ++ ")").toList =
      some ((fixed ") AND object_type IN (").tokens ++
        (literalList (givenTypes objectTypes) ++ [.symbol ')'])) ↔
        (literalTypes? objectTypes).isSome := by
    have hinj := Option.map_injective
      (List.append_right_injective (fixed ") AND object_type IN (").tokens)
    rw [hlast, tokens?, hsep.scan, ← tokens?_types_iff]
    exact @Function.Injective.eq_iff _ _ _ hinj _ (some _)
  have hquoted : Quoted encloseC [fixed "SELECT object_name FROM all_objects WHERE owner = UPPER(",
      name schema, fixed ") AND UPPER(object_name) = UPPER(", name objectName] ↔
        nullChar ∉ schema.toList ∧ nullChar ∉ objectName.toList :=
    quoted_fixed.trans (quoted_nameC.trans (and_congr_right' (quoted_fixed.trans
      (quoted_nameC.trans (and_iff_left (quoted_nil _))))))
  rw [keepsNames_iff_of_tokens (.getObjectName schema objectName objectTypes) hhead (hcount _)]
  exact (and_congr hquoted htokens).trans and_assoc

theorem quoted_listObjectsPieces (limit : ℕ) (schema objectTypes : String) :
    Quoted encloseC (listObjectsPieces limit schema objectTypes) ↔
      nullChar ∉ schema.toList ∧ nullChar ∉ objectTypes.toList := by
  have hall : Quoted encloseC [fixed "SELECT object_name FROM all_objects WHERE owner = UPPER(",
      name schema, fixed ") AND object_type IN (", .given (trimmedTypes objectTypes)] ↔
        nullChar ∉ schema.toList ∧ nullChar ∉ objectTypes.toList :=
    quoted_fixed.trans (quoted_nameC.trans (and_congr_right' (quoted_fixed.trans
      (quoted_given.trans ((and_iff_left (quoted_nil _)).trans encloseC_types_iff)))))
  unfold listObjectsPieces
  by_cases hlimit : limit > 0
  · rw [if_pos hlimit]
    exact quoted_fixed.trans hall
  · rw [if_neg hlimit]
    exact hall

theorem quoted_oracleWriteBindPieces (schema object : String) :
    Quoted encloseRaw (oracleWriteBindPieces schema object) ↔
      '\'' ∉ schema.toList ∧ '\'' ∉ object.toList := by
  have hobject : Quoted encloseRaw [fixed " AND ", fixed "(table_name = ", name object,
      fixed " OR table_name = upper(", name object] ↔ '\'' ∉ object.toList := by
    refine quoted_fixed.trans (quoted_fixed.trans (quoted_nameRaw.trans ?_))
    rw [quoted_fixed, quoted_nameRaw, and_iff_left (quoted_nil _), and_self_iff]
  unfold oracleWriteBindPieces
  refine quoted_fixed.trans ?_
  by_cases hempty : schema = ""
  · have hplain : '\'' ∉ schema.toList := by
      rw [hempty]
      exact List.not_mem_nil
    rw [if_pos hempty, and_iff_right hplain]
    exact quoted_fixed.trans hobject
  · rw [if_neg hempty]
    exact quoted_fixed.trans (quoted_nameRaw.trans (and_congr_right' (quoted_fixed.trans hobject)))

theorem keepsNames_oracleWriteBind (schema object : String) :
    KeepsNames (.oracleWriteBind schema object) ↔ '\'' ∉ schema.toList ∧ '\'' ∉ object.toList := by
  have hends : Ends '\'' ")) ORDER BY owner, table_name, column_id".toList :=
    .of_string rfl (by decide)
  rw [keepsNames_iff_of_ends (.oracleWriteBind schema object) hends rfl]
  exact quoted_oracleWriteBindPieces schema object

/-- **When a metadata query keeps its names apart from its text.** -/
theorem keepsNames_iff (q : MetadataQuery) : KeepsNames q ↔ PlainNames q := by
  cases q with
  | listTables schema =>
    have hends : Ends nullChar ") ORDER BY table_name".toList := .of_string rfl (by decide)
    rw [keepsNames_iff_of_ends (.listTables schema) hends rfl]
    exact quoted_fixed.trans (quoted_nameC.trans (and_iff_left (quoted_nil _)))
  | listObjects limit schema objectTypes =>
    rw [keepsNames_iff_of_ends (.listObjects limit schema objectTypes)
      (ends_listObjectsLast limit) rfl]
    exact quoted_listObjectsPieces limit schema objectTypes
  | resolveSynonym schema synonymName =>
    have hends : Ends nullChar ") THEN 0 ELSE 1 END".toList := .of_string rfl (by decide)
    have hschema : Quoted encloseC [fixed ") AND (owner = UPPER(", name schema,
        fixed ") OR owner = 'PUBLIC') ORDER BY CASE WHEN owner = UPPER(", name schema] ↔
          nullChar ∉ schema.toList := by
      refine quoted_fixed.trans (quoted_nameC.trans ?_)
      rw [quoted_fixed, quoted_nameC, and_iff_left (quoted_nil _), and_self_iff]
    rw [keepsNames_iff_of_ends (.resolveSynonym schema synonymName) hends rfl]
    exact quoted_fixed.trans (quoted_nameC.trans ((and_congr_right' hschema).trans and_comm))
  | getObjectName schema objectName objectTypes =>
    exact keepsNames_getObjectName schema objectName objectTypes
  | getRealSchemaName realName =>
    have hends : Ends nullChar ")".toList := .of_string rfl (by decide)
    rw [keepsNames_iff_of_ends (.getRealSchemaName realName) hends rfl]
    exact quoted_fixed.trans (quoted_nameC.trans (and_iff_left (quoted_nil _)))
  | loadColumns schema table =>
    have hends : Ends nullChar ") ORDER BY column_id".toList := .of_string rfl (by decide)
    rw [keepsNames_iff_of_ends (.loadColumns schema table) hends rfl]
    exact quoted_fixed.trans (quoted_fixed.trans (quoted_nameC.trans (and_congr_right'
      (quoted_fixed.trans (quoted_nameC.trans (and_iff_left (quoted_nil _)))))))
  | oracleWriteBind schema object => exact keepsNames_oracleWriteBind schema object

/-- The quote of a table name ends the literal of `OracleWriteBind`. -/
theorem not_keepsNames_oracleWriteBind : ¬ KeepsNames (.oracleWriteBind "" "o'x") :=
  fun h => ((keepsNames_oracleWriteBind "" "o'x").mp h).2 (by decide)

end Write
end DuckdbOracle
