import DuckdbOracle.Catalog.TableEntry
import DuckdbOracle.Foundations.SqlSelect
import DuckdbOracle.Scan.PushdownSplit
import DuckdbOracle.Write.InsertText

/-!
# Reading the SELECT of a table

`GetScanFunction` writes the columns of an entry, some of them within a conversion of
their type, and its table.  The names may contain anything, also quotes, commas and
keywords.

Read by the rules of SQL, the text is the statement that was meant
(`scan_query_reads_back`): no name ends before its closing quote, and every column stands
for itself, or for its conversion under its own name.
-/

namespace DuckdbOracle
namespace Scan

open Catalog Duckdb Oracle QuotedText SqlTokens Write

/-! ## Texts and their tokens -/

/-- Texts that are read as expressions, with a fixed text between them. -/
theorem readsAs_separated {sep : String} {t : Token} {c : Char} {chars : List Char}
    (hs : sep = String.ofList (c :: chars)) (hword : isWordChar c = false)
    (hquote : ¬ IsDelimiter c) (hrun : SqlTokens.run .idle sep.toList = ([t], .idle))
    {texts : List String} {es : List (List Token)}
    (h : List.Forall₂ (fun s e => ReadsAs s.toList e) texts es) :
    ReadsAs (join sep texts).toList (separated t es) := by
  induction h with
  | nil => exact readsAs_nil
  | @cons s e texts es hfirst hrest ih =>
    cases hrest with
    | nil => exact hfirst
    | @cons s' f texts es hsecond hrest =>
      rw [join, String.toList_append, String.toList_append, List.append_assoc]
      exact readsAs_append_fixed hfirst hs hword hquote hrun ih

/-! ## Conversions -/

/-- What a column is read through. -/
inductive ReadConversion where
  | toWkt
  | vectorSerialize
  | jsonSerialize
  | xmlSerialize
  | rawToHex
  | toChar
  deriving DecidableEq

/-- The conversion that `GetConversionExpression` writes, if it writes one. -/
def readConversion? (column : OracleColumnMetadata) (version : OracleVersionInfo) :
    Option ReadConversion :=
  match column.category with
  | .spatial => some .toWkt
  | .vector => some .vectorSerialize
  | .json => if version.supportsJsonType then some .jsonSerialize else none
  | .xml => some .xmlSerialize
  | .lobBlob | .raw => if column.needsServerConversion then some .rawToHex else none
  | .lobClob => if column.needsServerConversion then some .toChar else none
  | _ => none

/-- What is written before the column. -/
def ReadConversion.opening : ReadConversion → String
  | .toWkt => "SDO_UTIL.TO_WKTGEOMETRY("
  | .vectorSerialize => "VECTOR_SERIALIZE("
  | .jsonSerialize => "JSON_SERIALIZE("
  | .xmlSerialize => "XMLSERIALIZE(CONTENT "
  | .rawToHex => "RAWTOHEX("
  | .toChar => "TO_CHAR("

/-- What is written behind the column. -/
def ReadConversion.closing : ReadConversion → String
  | .jsonSerialize => " RETURNING VARCHAR2(32767))"
  | .xmlSerialize => " AS CLOB)"
  | _ => ")"

/-- The tokens before the column. -/
def ReadConversion.before : ReadConversion → List Token
  | .toWkt => [keyword "SDO_UTIL", .symbol '.', keyword "TO_WKTGEOMETRY", .symbol '(']
  | .vectorSerialize => [keyword "VECTOR_SERIALIZE", .symbol '(']
  | .jsonSerialize => [keyword "JSON_SERIALIZE", .symbol '(']
  | .xmlSerialize => [keyword "XMLSERIALIZE", .symbol '(', keyword "CONTENT"]
  | .rawToHex => [keyword "RAWTOHEX", .symbol '(']
  | .toChar => [keyword "TO_CHAR", .symbol '(']

/-- The tokens behind the column. -/
def ReadConversion.behind : ReadConversion → List Token
  | .jsonSerialize =>
    [keyword "RETURNING", keyword "VARCHAR2", .symbol '(', keyword "32767", .symbol ')',
      .symbol ')']
  | .xmlSerialize => [keyword "AS", keyword "CLOB", .symbol ')']
  | _ => [.symbol ')']

/-- A column, through its conversion if it has one. -/
def convertedTokens (conversion : Option ReadConversion) (name : List Char) : List Token :=
  conversion.elim [.name name] fun c => c.before ++ ([.name name] ++ c.behind)

theorem conversionExpression_eq (quotedCol : String) (column : OracleColumnMetadata)
    (version : OracleVersionInfo) :
    conversionExpression quotedCol column version =
      (readConversion? column version).elim quotedCol fun c =>
        c.opening ++ cString quotedCol ++ c.closing := by
  unfold conversionExpression readConversion?
  cases column.category <;> first
    | rfl
    | (dsimp only; split_ifs <;> rfl)

theorem ReadConversion.run_opening (c : ReadConversion) :
    SqlTokens.run .idle c.opening.toList = (c.before, .idle) := by
  cases c <;> exact run_of_string rfl (by decide)

theorem ReadConversion.run_closing (c : ReadConversion) :
    SqlTokens.run .idle c.closing.toList = (c.behind, .idle) := by
  cases c <;> exact run_of_string rfl (by decide)

/-- What is written behind a column does not go on with its name. -/
theorem ReadConversion.exists_closing (c : ReadConversion) :
    ∃ d ds, c.closing = String.ofList (d :: ds) ∧ isWordChar d = false ∧ ¬ IsDelimiter d := by
  cases c <;> exact ⟨_, _, rfl, by decide, by decide⟩

/-- **A converted column is read as its conversion of exactly this column.** -/
theorem readsAs_conversion {name : String} (hname : nullChar ∉ name.toList)
    (column : OracleColumnMetadata) (version : OracleVersionInfo) :
    ReadsAs (conversionExpression (writeQuoted name) column version).toList
      (convertedTokens (readConversion? column version) name.toList) := by
  rw [conversionExpression_eq, cString_writeQuoted hname]
  cases readConversion? column version with
  | none => exact readsAs_writeQuoted name
  | some c =>
    obtain ⟨d, ds, hs, hword, hquote⟩ := c.exists_closing
    have hbehind := readsAs_append_fixed (readsAs_writeQuoted name) hs hword hquote c.run_closing
      readsAs_nil
    have hall := ReadsAs.after_run c.run_opening hbehind
    rw [List.append_nil, List.append_nil] at hall
    show ReadsAs (c.opening ++ writeQuoted name ++ c.closing).toList
      (c.before ++ ([.name name.toList] ++ c.behind))
    rw [String.toList_append, String.toList_append, List.append_assoc]
    exact hall

theorem inside_conversion (conversion : Option ReadConversion) (name : List Char) :
    inside endsItem 0 (convertedTokens conversion name) = some 0 := by
  cases conversion with
  | none => rfl
  | some c =>
    have hbefore : inside endsItem 0 c.before = some 1 := by cases c <;> decide
    have hbehind : inside endsItem 1 c.behind = some 0 := by cases c <;> decide
    exact inside_append hbefore (inside_append rfl hbehind)

/-! ## The query of an entry -/

/-- The tokens of one column of the query. -/
def itemTokens (entry : OracleTableEntry) (version : OracleVersionInfo)
    (settings : OracleSettings) (column : ColumnDefinition × ℕ) : List Token :=
  match entry.columnMetadata[column.2]? with
  | some metadata =>
    if settings.enableTypeConversion &&
        metadata.requiresQueryRewrite version settings.tryNativeLobs then
      convertedTokens (readConversion? metadata version) column.1.name.toList ++
        [keyword "AS", .name column.1.name.toList]
    else [.name column.1.name.toList]
  | none => [.name column.1.name.toList]

/-- The statement that is meant. -/
def scanStatement (entry : OracleTableEntry) (version : OracleVersionInfo)
    (settings : OracleSettings) : SelectStatement where
  items := entry.columns.zipIdx.map (itemTokens entry version settings)
  source := .table entry.schemaName.toList entry.tableName.toList
  conditions := []

/-- A column of the query is a column of the table, or a conversion of it under its
name. -/
theorem itemTokens_cases (entry : OracleTableEntry) (version : OracleVersionInfo)
    (settings : OracleSettings) (column : ColumnDefinition × ℕ) :
    itemTokens entry version settings column = [.name column.1.name.toList] ∨
      ∃ conversion, itemTokens entry version settings column =
        convertedTokens conversion column.1.name.toList ++
          [keyword "AS", .name column.1.name.toList] := by
  unfold itemTokens
  split
  · split
    · exact Or.inr ⟨_, rfl⟩
    · exact Or.inl rfl
  · exact Or.inl rfl

theorem readsAs_selectColumn (entry : OracleTableEntry) (version : OracleVersionInfo)
    (settings : OracleSettings) {column : ColumnDefinition × ℕ}
    (hnull : nullChar ∉ column.1.name.toList) :
    ReadsAs (entry.selectColumn version settings column).toList
      (itemTokens entry version settings column) := by
  have hquoted := mt (nullChar_mem_writeQuoted column.1.name).mp hnull
  have hname := readsAs_writeQuoted column.1.name
  have has : SqlTokens.run .idle " AS ".toList = ([keyword "AS"], .idle) :=
    run_of_string rfl (by decide)
  rw [OracleTableEntry.selectColumn, itemTokens]
  cases entry.columnMetadata[column.2]? with
  | none => exact hname
  | some metadata =>
    dsimp only
    by_cases hrewrite : (settings.enableTypeConversion &&
        metadata.requiresQueryRewrite version settings.tryNativeLobs) = true
    · rw [if_pos hrewrite, if_pos hrewrite, cString_writeQuoted hnull,
        cString_eq (not_mem_conversionExpression hquoted metadata version), String.toList_append,
        String.toList_append, List.append_assoc]
      exact readsAs_append_fixed (readsAs_conversion hnull metadata version) rfl rfl (by decide)
        has hname
    · rw [if_neg hrewrite, if_neg hrewrite]
      exact hname

theorem inside_itemTokens (entry : OracleTableEntry) (version : OracleVersionInfo)
    (settings : OracleSettings) (column : ColumnDefinition × ℕ) :
    itemTokens entry version settings column ≠ [] ∧
      inside endsItem 0 (itemTokens entry version settings column) = some 0 := by
  have has : inside endsItem 0 [keyword "AS"] = some 0 := by decide
  rcases itemTokens_cases entry version settings column with h | ⟨conversion, h⟩
  · rw [h]
    exact ⟨List.cons_ne_nil _ _, rfl⟩
  · rw [h]
    exact ⟨by simp, inside_append (inside_conversion conversion _) (inside_append has rfl)⟩

/-- **The query of an entry is read as the tokens of the statement that is meant.** -/
theorem readsAs_scanQuery {entry : OracleTableEntry} (hnull : entry.NullFree)
    (version : OracleVersionInfo) (settings : OracleSettings) :
    ReadsAs (entry.scanQuery version settings).toList
      (scanStatement entry version settings).tokens := by
  have hselect : SqlTokens.run .idle "SELECT ".toList = ([keyword "SELECT"], .idle) :=
    run_of_string rfl (by decide)
  have hfrom : SqlTokens.run .idle " FROM ".toList = ([keyword "FROM"], .idle) :=
    run_of_string rfl (by decide)
  have hpoint : SqlTokens.run .idle ".".toList = ([.symbol '.'], .idle) := rfl
  have hcomma : SqlTokens.run .idle ", ".toList = ([.symbol ','], .idle) := rfl
  have hitems : ReadsAs
      (join ", " (entry.columns.zipIdx.map (entry.selectColumn version settings))).toList
      (separated (.symbol ',') (scanStatement entry version settings).items) := by
    refine readsAs_separated rfl rfl (by decide) hcomma ?_
    rw [scanStatement, List.forall₂_map_left_iff, List.forall₂_map_right_iff, List.forall₂_same]
    exact fun column hcolumn => readsAs_selectColumn entry version settings
      (hnull.columns column.1 (List.fst_mem_of_mem_zipIdx hcolumn))
  have htable := readsAs_append_fixed (readsAs_writeQuoted entry.schemaName) rfl rfl (by decide)
    hpoint (readsAs_writeQuoted entry.tableName)
  have hall := ReadsAs.after_run hselect
    (readsAs_append_fixed hitems rfl rfl (by decide) hfrom htable)
  have htext : (entry.scanQuery version settings).toList =
      "SELECT ".toList ++ ((join ", "
        (entry.columns.zipIdx.map (entry.selectColumn version settings))).toList ++
          (" FROM ".toList ++ ((writeQuoted entry.schemaName).toList ++ (".".toList ++
            (writeQuoted entry.tableName).toList)))) := by
    simp only [scanQuery_eq hnull, OracleTableEntry.fromClause, String.toList_append,
      List.append_assoc]
  have htokens : (scanStatement entry version settings).tokens =
      [keyword "SELECT"] ++
        (separated (.symbol ',') (scanStatement entry version settings).items ++
          ([keyword "FROM"] ++ ([.name entry.schemaName.toList] ++ ([.symbol '.'] ++
            [.name entry.tableName.toList])))) := rfl
  rw [htext, htokens]
  exact hall

theorem wellFormed_scanStatement {entry : OracleTableEntry} (version : OracleVersionInfo)
    (settings : OracleSettings) (h : entry.columns ≠ []) :
    (scanStatement entry version settings).WellFormed where
  ne_nil := by simpa [scanStatement] using h
  item e he := by
    obtain ⟨column, -, rfl⟩ := List.mem_map.mp he
    exact inside_itemTokens entry version settings column
  view _ hview := nomatch hview
  condition _ he := nomatch he

/-- **The query of a table is read back as the statement that is meant**: each column, or its
conversion under the name of the column, from the table, whatever the names contain but null
characters. -/
theorem scan_query_reads_back {entry : OracleTableEntry} (hnull : entry.NullFree)
    (version : OracleVersionInfo) (settings : OracleSettings) (h : entry.columns ≠ []) :
    (tokens? (entry.scanQuery version settings).toList).bind readSelect? =
      some (scanStatement entry version settings) := by
  rw [(readsAs_scanQuery hnull version settings).tokens?, Option.bind_some]
  exact readSelect?_tokens (wellFormed_scanStatement version settings h)

/-- The statement has no parenthesis that it does not close. -/
theorem inside_scanStatement (entry : OracleTableEntry) (version : OracleVersionInfo)
    (settings : OracleSettings) :
    inside endsView 0 (scanStatement entry version settings).tokens = some 0 := by
  have hselect : inside endsView 0 [keyword "SELECT"] = some 0 := by decide
  have hitems : inside endsView 0
      (separated (.symbol ',') (scanStatement entry version settings).items) = some 0 := by
    refine inside_separated rfl fun e he => ?_
    obtain ⟨column, -, rfl⟩ := List.mem_map.mp he
    exact inside_endsView (inside_itemTokens entry version settings column).2
  have hfrom : inside endsView 0 [keyword "FROM"] = some 0 := by decide
  have htable : inside endsView 0
      (Source.table entry.schemaName.toList entry.tableName.toList).tokens = some 0 := rfl
  have hall := inside_append hselect (inside_append hitems (inside_append hfrom htable))
  simpa [SelectStatement.tokens, whereTokens, scanStatement] using hall

/-- A geometry and a text whose names end their quotes and go on as SQL. -/
def quotedEntry : OracleTableEntry where
  schema := "S"
  name := "T"
  columns := [⟨"A\", 1 \"B", .varchar⟩, ⟨"X\" FROM DUAL --", .varchar⟩]
  schemaName := "S"
  tableName := "T\" --"
  columnMetadata := [⟨"A\", 1 \"B", "SDO_GEOMETRY", .spatial, true⟩]

theorem nullFree_quotedEntry : quotedEntry.NullFree where
  schemaName := by decide
  tableName := by decide
  columns := by decide

theorem scan_query_reads_back_quoted :
    (tokens? (quotedEntry.scanQuery {} {}).toList).bind readSelect? =
      some ⟨[[keyword "SDO_UTIL", .symbol '.', keyword "TO_WKTGEOMETRY", .symbol '(',
          .name "A\", 1 \"B".toList, .symbol ')', keyword "AS", .name "A\", 1 \"B".toList],
        [.name "X\" FROM DUAL --".toList]], .table "S".toList "T\" --".toList, []⟩ := by
  have hback := scan_query_reads_back nullFree_quotedEntry {} {} (List.cons_ne_nil _ _)
  rw [hback]
  rfl

end Scan
end DuckdbOracle
