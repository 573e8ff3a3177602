import DuckdbOracle.Foundations.SqlInsert
import DuckdbOracle.Write.Bind
import DuckdbOracle.Write.Sink

/-!
# Reading the INSERT of a COPY

`OracleWriteInitGlobal` writes the INSERT of a `COPY` from names that may contain anything,
also quotes, and in two loops over the columns: one writes the names, the other a
placeholder for each, within a conversion for some types.  Sink then binds buffers to
positions, and OCI counts the placeholders to find the one at a position.

Read by the rules of SQL, the text is the statement that was meant
(`insertSql_reads_back`): no name ends before its closing quote, every value has the one
placeholder of its column, and so what Sink binds for a column goes to the column that the
INSERT lists there.
-/

namespace DuckdbOracle
namespace Write

open Duckdb Catalog QuotedText SqlTokens StepRuns

/-! ## Conversions -/

/-- The conversion that a type of Oracle asks for. -/
inductive Conversion where
  | plain
  | toDate
  | toTimestamp
  | fromWkt
  deriving DecidableEq

/-- The tests of the second loop. -/
def conversionOf (oracleType : String) : Conversion :=
  let type := upper oracleType
  if type = "DATE" then .toDate
  else if contains type "TIMESTAMP" then .toTimestamp
  else if type = "SDO_GEOMETRY" ∨ type = "MDSYS.SDO_GEOMETRY" then .fromWkt
  else .plain

/-- What is written before the placeholder. -/
def Conversion.opening : Conversion → String
  | .plain => ""
  | .toDate => "TO_DATE("
  | .toTimestamp => "TO_TIMESTAMP("
  | .fromWkt => "SDO_UTIL.FROM_WKTGEOMETRY("

/-- What is written behind the placeholder. -/
def Conversion.closing : Conversion → String
  | .plain => ""
  | .toDate => ", 'YYYY-MM-DD HH24:MI:SS')"
  | .toTimestamp => ", 'YYYY-MM-DD HH24:MI:SS.FF')"
  | .fromWkt => ")"

/-- The value with a placeholder. -/
def Conversion.wrap (name : List Char) : Conversion → List Token
  | .plain => [.placeholder name]
  | .toDate => [keyword "TO_DATE", .symbol '(', .placeholder name, .symbol ',',
      .literal "YYYY-MM-DD HH24:MI:SS".toList, .symbol ')']
  | .toTimestamp => [keyword "TO_TIMESTAMP", .symbol '(', .placeholder name, .symbol ',',
      .literal "YYYY-MM-DD HH24:MI:SS.FF".toList, .symbol ')']
  | .fromWkt => [keyword "SDO_UTIL", .symbol '.', keyword "FROM_WKTGEOMETRY", .symbol '(',
      .placeholder name, .symbol ')']

theorem placeholder_eq (position : ℕ) (oracleType : String) :
    placeholder position oracleType = (conversionOf oracleType).opening ++
      (":" ++ toString position) ++ (conversionOf oracleType).closing := by
  have hplain : ∀ s : String, "" ++ s ++ "" = s := by
    intro s
    rw [String.empty_append, String.append_empty]
  unfold placeholder conversionOf
  dsimp only
  split_ifs
  · rfl
  · rfl
  · rfl
  · exact (hplain _).symm

/-- A value has its placeholder, and no other. -/
theorem placeholders_wrap (name : List Char) (c : Conversion) :
    placeholders (c.wrap name) = [name] := by
  cases c <;> rfl

/-- A value ends where it ends. -/
theorem after_wrap (name : List Char) (c : Conversion) : after 0 (c.wrap name) = some 0 := by
  cases c <;> rfl

/-! ## The texts -/

/-- The characters of a string literal are read. -/
theorem run_of_string {s : String} {chars : List Char} {ts : List Token} {mode : Mode}
    (hs : s = String.ofList chars) (h : run .idle chars = (ts, mode)) :
    run .idle s.toList = (ts, mode) := by
  rw [hs, String.toList_ofList, h]

/-- A placeholder between two texts, of which the second one stops it. -/
theorem readsAs_between {opening closing : String} {c : Char} {chars : List Char}
    {ts us : List Token} (hopening : run .idle opening.toList = (ts, .idle))
    (hclosing : run .idle closing.toList = (us, .idle)) (hs : closing = String.ofList (c :: chars))
    (hword : isWordChar c = false) (hquote : ¬ IsDelimiter c) (position : ℕ) :
    ReadsAs (opening.toList ++ ':' :: Nat.toDigits 10 position ++ closing.toList)
      (ts ++ [.placeholder (Nat.toDigits 10 position)] ++ us) := by
  have hchars : closing.toList = c :: chars := by rw [hs, String.toList_ofList]
  have hstops : Stops closing.toList := by
    intro d hd
    rw [hchars] at hd
    obtain rfl := Option.some.inj hd
    exact ⟨hword, hquote⟩
  have hne : closing.toList ≠ [] := by
    rw [hchars]
    exact List.cons_ne_nil c chars
  exact (ReadsAs.after_run hopening (readsAs_placeholder isWordChar_toDigits)).append
    (ReadsAs.of_run hclosing) hne hstops

/-- The text of a value is read as the value. -/
theorem readsAs_value (position : ℕ) (oracleType : String) :
    ReadsAs (placeholder position oracleType).toList
      ((conversionOf oracleType).wrap (Nat.toDigits 10 position)) := by
  have hname : (":" ++ toString position).toList = ':' :: Nat.toDigits 10 position := by
    rw [String.toList_append, Nat.toString_eq_repr, Nat.toList_repr]
    rfl
  rw [placeholder_eq, String.toList_append, String.toList_append, hname]
  cases conversionOf oracleType with
  | plain =>
    show ReadsAs ([] ++ ':' :: Nat.toDigits 10 position ++ []) _
    rw [List.append_nil]
    exact readsAs_placeholder isWordChar_toDigits
  | toDate =>
    have hopening : SqlTokens.run .idle "TO_DATE(".toList =
        ([keyword "TO_DATE", .symbol '('], .idle) := run_of_string rfl (by decide)
    have hclosing : SqlTokens.run .idle ", 'YYYY-MM-DD HH24:MI:SS')".toList =
        ([.symbol ',', .literal "YYYY-MM-DD HH24:MI:SS".toList, .symbol ')'], .idle) :=
      run_of_string rfl (by decide)
    exact readsAs_between hopening hclosing rfl rfl (by decide) position
  | toTimestamp =>
    have hopening : SqlTokens.run .idle "TO_TIMESTAMP(".toList =
        ([keyword "TO_TIMESTAMP", .symbol '('], .idle) := run_of_string rfl (by decide)
    have hclosing : SqlTokens.run .idle ", 'YYYY-MM-DD HH24:MI:SS.FF')".toList =
        ([.symbol ',', .literal "YYYY-MM-DD HH24:MI:SS.FF".toList, .symbol ')'], .idle) :=
      run_of_string rfl (by decide)
    exact readsAs_between hopening hclosing rfl rfl (by decide) position
  | fromWkt =>
    have hopening : SqlTokens.run .idle "SDO_UTIL.FROM_WKTGEOMETRY(".toList =
        ([keyword "SDO_UTIL", .symbol '.', keyword "FROM_WKTGEOMETRY", .symbol '('], .idle) :=
      run_of_string rfl (by decide)
    have hclosing : SqlTokens.run .idle ")".toList = ([.symbol ')'], .idle) :=
      run_of_string rfl (by decide)
    exact readsAs_between hopening hclosing rfl rfl (by decide) position

/-! ## Lists -/

/-- Texts that are read as expressions are read as a list of them. -/
theorem readsAs_join {texts : List String} {es : List (List Token)}
    (h : List.Forall₂ (fun s e => ReadsAs s.toList e) texts es) :
    ReadsAs (join ", " texts).toList (listTokens es) := by
  induction h with
  | nil => exact ReadsAs.of_run rfl
  | @cons s e texts es hfirst hrest ih =>
    cases hrest with
    | nil => exact hfirst
    | @cons t f texts es hsecond hrest =>
      have hcomma : SqlTokens.run .idle ", ".toList = ([.symbol ','], .idle) := rfl
      have hstops : Stops (", ".toList ++ (join ", " (t :: texts)).toList) := by
        intro c hc
        obtain rfl := Option.some.inj hc
        exact ⟨rfl, by decide⟩
      rw [join, String.toList_append, String.toList_append, List.append_assoc]
      exact hfirst.append (ReadsAs.after_run hcomma ih) (by simp) hstops

theorem readsAs_writeQuoted (s : String) :
    ReadsAs (writeQuoted s).toList [.name s.toList] := by
  rw [writeQuoted, String.toList_ofList]
  exact readsAs_quote (Or.inl rfl) s.toList

/-! ## The statement -/

/-- The statement that is meant. -/
def OracleWriteBindData.statement (data : OracleWriteBindData) : InsertStatement where
  schema := if data.schemaName = "" then none else some data.schemaName.toList
  object := data.objectName.toList
  columns := data.columnNames.map String.toList
  values := (List.range data.columnNames.length).map fun i =>
    (conversionOf (data.oracleTypes.getD i "")).wrap (Nat.toDigits 10 (i + 1))

/-- A fixed text in the middle: anything may follow it. -/
theorem scan_fixed {a : List Char} {ts us : List Token} {s : String} {c : Char}
    {chars : List Char} (ha : ReadsAs a ts) (hs : s = String.ofList (c :: chars))
    (hword : isWordChar c = false) (hquote : ¬ IsDelimiter c)
    (hrun : SqlTokens.run .idle s.toList = (us, .idle)) (rest : List Char) :
    scan .idle (a ++ (s.toList ++ rest)) = (scan .idle rest).map ((ts ++ us) ++ ·) := by
  have hstops : Stops (s.toList ++ rest) := by
    rw [hs, String.toList_ofList]
    intro d hd
    obtain rfl := Option.some.inj hd
    exact ⟨hword, hquote⟩
  rw [ha _ hstops, scan_append_of_run hrun, Option.map_map]
  congr 1
  funext tokens
  exact (List.append_assoc ts us tokens).symm

/-- A text goes on with a fixed one, which stops it. -/
theorem readsAs_append_fixed {a b : List Char} {ts us vs : List Token} {s : String} {c : Char}
    {chars : List Char} (ha : ReadsAs a ts) (hs : s = String.ofList (c :: chars))
    (hword : isWordChar c = false) (hquote : ¬ IsDelimiter c)
    (hrun : SqlTokens.run .idle s.toList = (us, .idle)) (hb : ReadsAs b vs) :
    ReadsAs (a ++ (s.toList ++ b)) (ts ++ (us ++ vs)) := by
  intro rest hrest
  rw [List.append_assoc, List.append_assoc, scan_fixed ha hs hword hquote hrun, hb rest hrest,
    Option.map_map]
  congr 1
  funext tokens
  simp only [Function.comp_apply, List.append_assoc]

theorem readsAs_nil : ReadsAs [] [] := ReadsAs.of_run rfl

/-- The name of the table, with its schema. -/
theorem readsAs_table (data : OracleWriteBindData) :
    ReadsAs ((if data.schemaName ≠ "" then writeQuoted data.schemaName ++ "." else "") ++
      writeQuoted data.objectName).toList
        (tableTokens data.statement.schema data.statement.object) := by
  have hobject := readsAs_writeQuoted data.objectName
  have hpoint : SqlTokens.run .idle ".".toList = ([.symbol '.'], .idle) := rfl
  by_cases hempty : data.schemaName = ""
  · rw [if_neg (not_not_intro hempty), String.empty_append, OracleWriteBindData.statement,
      if_pos hempty]
    exact hobject
  · rw [if_pos hempty, OracleWriteBindData.statement, if_neg hempty, String.toList_append,
      String.toList_append, List.append_assoc]
    exact readsAs_append_fixed (readsAs_writeQuoted data.schemaName) rfl rfl (by decide) hpoint
      hobject

theorem readsAs_columns (data : OracleWriteBindData) :
    ReadsAs (join ", " (data.columnNames.map writeQuoted)).toList
      (listTokens (data.statement.columns.map fun c => [.name c])) := by
  refine readsAs_join ?_
  rw [OracleWriteBindData.statement, List.map_map, List.forall₂_map_left_iff,
    List.forall₂_map_right_iff, List.forall₂_same]
  exact fun name _ => readsAs_writeQuoted name

theorem readsAs_values (data : OracleWriteBindData) :
    ReadsAs (join ", " ((List.range data.columnNames.length).map fun i =>
      placeholder (i + 1) (data.oracleTypes.getD i ""))).toList
        (listTokens data.statement.values) := by
  refine readsAs_join ?_
  rw [OracleWriteBindData.statement, List.forall₂_map_left_iff, List.forall₂_map_right_iff,
    List.forall₂_same]
  exact fun i _ => readsAs_value (i + 1) (data.oracleTypes.getD i "")

/-- **The INSERT is read as the tokens of the statement that is meant.** -/
theorem tokens?_insertSql (data : OracleWriteBindData) :
    tokens? data.insertSql.toList = some data.statement.tokens := by
  have hstart : SqlTokens.run .idle insertInto.toList =
      ([keyword "INSERT", keyword "INTO"], .idle) := run_of_string rfl (by decide)
  have hopen : SqlTokens.run .idle " (".toList = ([.symbol '('], .idle) := rfl
  have hmiddle : SqlTokens.run .idle ") VALUES (".toList =
      ([.symbol ')', keyword "VALUES", .symbol '('], .idle) := run_of_string rfl (by decide)
  have hclose : SqlTokens.run .idle ")".toList = ([.symbol ')'], .idle) := rfl
  have hvalues := readsAs_append_fixed (readsAs_values data) rfl rfl (by decide) hclose readsAs_nil
  have hcolumns := readsAs_append_fixed (readsAs_columns data) rfl rfl (by decide) hmiddle hvalues
  have hrow := readsAs_append_fixed (readsAs_table data) rfl rfl (by decide) hopen hcolumns
  have hall := (ReadsAs.after_run hstart hrow).tokens?
  have htext : ∀ a b c d e f g : String, (a ++ b ++ (c ++ d ++ e ++ f ++ g)).toList =
      a.toList ++ (b.toList ++ (c.toList ++ (d.toList ++ (e.toList ++ (f.toList ++
        (g.toList ++ [])))))) := by
    intro a b c d e f g
    simp only [String.toList_append, List.append_assoc, List.append_nil]
  rw [OracleWriteBindData.insertSql, OracleWriteBindData.insertValues, htext, hall]
  rfl

/-! ## Positions -/

/-- Sink binds a column to the position behind its number. -/
theorem position_of_bindAll {oracleTypes : List String} {replies : Replies} {c : ℕ}
    {columns bound : List ColumnBuffers} (h : bindAll oracleTypes replies c columns = .ok bound)
    {i : ℕ} {b : ColumnBuffers} (hb : bound[i]? = some b) {k : OCIBind} (hk : b.bind = some k) :
    k.position = c + i + 1 := by
  induction columns generalizing c bound i with
  | nil =>
    obtain rfl := Except.ok.inj h
    exact nomatch hb
  | cons first columns ih =>
    obtain ⟨-, -, h⟩ := bind_eq_ok.mp h
    obtain ⟨-, -, h⟩ := bind_eq_ok.mp h
    obtain ⟨rest, hrest, h⟩ := bind_eq_ok.mp h
    obtain rfl := Except.ok.inj h
    cases i with
    | zero =>
      obtain rfl := Option.some.inj hb
      obtain rfl := Option.some.inj hk
      rfl
    | succ i =>
      have hposition := ih hrest hb
      omega

/-! ## What the statement says -/

/-- **The INSERT reads back** as a statement: that schema, that table and those columns, and for
each column a value with one placeholder, which is that of its place, in the conversion of its
type.  And what Sink binds for a column goes to that column. -/
structure ReadsBack (data : OracleWriteBindData) (statement : InsertStatement) : Prop where
  read : (tokens? data.insertSql.toList).bind readInsert? = some statement
  schema : statement.schema = if data.schemaName = "" then none else some data.schemaName.toList
  object : statement.object = data.objectName.toList
  columns : statement.columns = data.columnNames.map String.toList
  length : statement.values.length = statement.columns.length
  value : ∀ i type, data.oracleTypes[i]? = some type →
    ∃ e, statement.values[i]? = some e ∧ placeholders e = [Nat.toDigits 10 (i + 1)] ∧
      e = (conversionOf type).wrap (Nat.toDigits 10 (i + 1))
  bound : ∀ replies columns bound, bindAll data.oracleTypes replies 0 columns = .ok bound →
    ∀ (i : ℕ) (b : ColumnBuffers) (k : OCIBind), bound[i]? = some b → b.bind = some k →
      k.position = i + 1 ∧ statement.fed[i]? = statement.columns[i]?

/-- **Every INSERT reads back**, whatever its names are. -/
theorem insertSql_reads_back {data : OracleWriteBindData} (hne : data.columnNames ≠ [])
    (htypes : data.oracleTypes.length = data.columnNames.length) :
    ReadsBack data data.statement := by
  have hlength : data.statement.values.length = data.statement.columns.length := by
    rw [OracleWriteBindData.statement, List.length_map, List.length_map, List.length_range]
  have hvalue : ∀ e ∈ data.statement.values, ∃ i, i < data.columnNames.length ∧
      e = (conversionOf (data.oracleTypes.getD i "")).wrap (Nat.toDigits 10 (i + 1)) := by
    intro e he
    obtain ⟨i, hi, rfl⟩ := List.mem_map.mp he
    exact ⟨i, List.mem_range.mp hi, rfl⟩
  have hfed : data.statement.fed = data.statement.columns := by
    refine fed_eq_columns hlength fun e he => ?_
    obtain ⟨i, -, rfl⟩ := hvalue e he
    rw [placeholders_wrap]
    rfl
  have hcolumns : data.statement.columns ≠ [] := mt List.map_eq_nil_iff.mp hne
  have hvalues : data.statement.values ≠ [] := by
    rw [← List.length_pos_iff, hlength]
    exact List.length_pos_iff.mpr hcolumns
  constructor
  · rw [tokens?_insertSql, Option.bind_some]
    refine readInsert?_tokens hcolumns hvalues fun e he => ?_
    obtain ⟨i, -, rfl⟩ := hvalue e he
    exact after_wrap _ _
  · rfl
  · rfl
  · rfl
  · exact hlength
  · intro i type htype
    have hi : i < data.columnNames.length := by
      rw [← htypes]
      exact (List.getElem?_eq_some_iff.mp htype).1
    have hgetD : data.oracleTypes.getD i "" = type := by
      rw [List.getD_eq_getElem?_getD, htype, Option.getD_some]
    refine ⟨_, ?_, placeholders_wrap _ _, rfl⟩
    rw [OracleWriteBindData.statement, List.getElem?_map, List.getElem?_range hi, Option.map_some,
      hgetD]
  · intro replies columns bound hbound i b k hb hk
    have hposition := position_of_bindAll hbound hb hk
    exact ⟨by omega, by rw [hfed]⟩

/-- A table of a schema, with a quote in a name and a date among the types. -/
theorem reads_back_quoted :
    ReadsBack ⟨"s.t", "", "s", "t", ["a\"b", "d"], ["NUMBER", "DATE"]⟩
      { schema := some ['s'], object := ['t'], columns := [['a', '"', 'b'], ['d']]
        values := [[.placeholder ['1']], [keyword "TO_DATE", .symbol '(', .placeholder ['2'],
          .symbol ',', .literal "YYYY-MM-DD HH24:MI:SS".toList, .symbol ')']] } :=
  insertSql_reads_back (by decide) rfl

end Write
end DuckdbOracle
