import DuckdbOracle.Scan.NumberCell

/-!
# Timestamps that are not in the data

Dates and timestamps come as text, in the format of the session.  `CreateConnection` sets
the formats of `DATE` and `TIMESTAMP`, but not the one of `TIMESTAMP WITH TIME ZONE`, which
stays what the server gives the session.  All of them go through `ParseOciTimestamp`, and
where DuckDB's parser throws, that returns a `timestamp_t()`: 1970-01-01 00:00:00, which is
a timestamp like any other.

So the cells of a column are what their texts denote exactly if DuckDB's parser accepts
every text of the column, those apart that denote that very moment
(`timestamps_exact_iff`).
-/

namespace DuckdbOracle
namespace Scan

open Catalog

/-! ## The texts of a column -/

/-- The formats in which a session writes dates. -/
structure NlsFormats where
  date : String
  timestamp : String
  timestampTz : String

/-- `CreateConnection` alters the session that the server gives it. -/
def NlsFormats.createConnection (server : NlsFormats) : NlsFormats :=
  { server with
    date := "YYYY-MM-DD HH24:MI:SS"
    timestamp := "YYYY-MM-DD HH24:MI:SS.FF" }

/-- The format of a column's texts. -/
def NlsFormats.format? (nls : NlsFormats) : OciType → Option String
  | .dat | .odt => some nls.date
  | .timestamp | .timestampLtz => some nls.timestamp
  | .timestampTz => some nls.timestampTz
  | _ => none

/-- The text of a cell, up to the first null byte. -/
def cellString (val : List UInt8) : List Char := (cellText val).takeWhile (· ≠ '\x00')

section

variable {F D T : Type}

/-- Oracle delivers `val` for a value of the column; `toChar` writes a moment in a format. -/
def Delivered (toChar : String → T → List Char) (server : NlsFormats) (column : DescribedColumn)
    (val : List UInt8) : Prop :=
  ∃ format t, server.createConnection.format? column.dataType = some format ∧
    cellString val = toChar format t

/-- The cell that is made of `val`. -/
def timestampCell (lib : Library F D T) (column : DescribedColumn) (val : List UInt8) :
    OutputCell (ScanValue F D T) :=
  .ofBytes (convertCell lib) column.returnType.output val

/-- **No timestamp is invented**: a cell is NULL or what its text denotes; and two texts that
denote different moments, of which one cannot be parsed, never give one and the same
timestamp. -/
structure NeverInvented (lib : Library F D T) (denotes : List Char → Option T)
    (column : DescribedColumn) (delivered : List UInt8 → Prop) : Prop where
  exact : ∀ val, delivered val → timestampCell lib column val = .null ∨
    ∃ t, denotes (cellString val) = some t ∧
      timestampCell lib column val = .value (.timestamp t)
  separate : ∀ val val', delivered val → delivered val' →
    denotes (cellString val) ≠ denotes (cellString val') →
    lib.fromString (cellString val) = none →
    timestampCell lib column val = .null ∨
      timestampCell lib column val ≠ timestampCell lib column val'

/-! ## What becomes of a text -/

theorem returnType_eq_timestamp {nls : NlsFormats} {column : DescribedColumn} {format : String}
    (h : nls.format? column.dataType = some format) : column.returnType = .timestamp := by
  unfold NlsFormats.format? at h
  unfold DescribedColumn.returnType
  split at h <;> first
    | (next heq => rw [heq])
    | exact nomatch h

/-- **A text that is not parsed becomes the first moment of 1970.** -/
theorem timestampCell_eq (lib : Library F D T) {column : DescribedColumn} {val : List UInt8}
    (htype : column.returnType = .timestamp) (hne : cellString val ≠ []) :
    timestampCell lib column val =
      .value (.timestamp ((lib.fromString (cellString val)).getD lib.epoch)) := by
  have hval : val ≠ [] := by
    rintro rfl
    exact hne rfl
  have hparse : parseOciTimestamp lib val =
      (lib.fromString (cellString val)).getD lib.epoch := by
    unfold cellString at hne ⊢
    rw [parseOciTimestamp, if_neg hval]
    dsimp only
    rw [if_neg hne]
    cases lib.fromString ((cellText val).takeWhile (· ≠ '\x00')) <;> rfl
  rw [timestampCell, htype, ← hparse]
  rfl

/-- **When no timestamp is invented.**  For every column of one of the temporal types, and
whatever format the server gives the session: exactly if every text of the column is parsed,
or denotes the first moment of 1970. -/
theorem timestamps_exact_iff (lib : Library F D T) (toChar : String → T → List Char)
    (denotes : List Char → Option T) (server : NlsFormats) (column : DescribedColumn)
    (hexact : ∀ s t, lib.fromString s = some t → denotes s = some t)
    (hne : ∀ format t, toChar format t ≠ []) :
    NeverInvented lib denotes column (Delivered toChar server column) ↔
      ∀ val, Delivered toChar server column val →
        (∃ t, lib.fromString (cellString val) = some t) ∨
          denotes (cellString val) = some lib.epoch := by
  have hcell : ∀ val, Delivered toChar server column val → timestampCell lib column val =
      .value (.timestamp ((lib.fromString (cellString val)).getD lib.epoch)) := by
    rintro val ⟨format, t, hformat, htext⟩
    exact timestampCell_eq lib (returnType_eq_timestamp hformat) (htext ▸ hne format t)
  constructor
  · rintro ⟨hcells, -⟩ val hval
    cases hparse : lib.fromString (cellString val) with
    | some t => exact Or.inl ⟨t, rfl⟩
    | none =>
      have hepoch := hcell val hval
      rw [hparse, Option.getD_none] at hepoch
      rcases hcells val hval with hnull | ⟨t, hdenotes, hvalue⟩
      · rw [hepoch] at hnull
        cases hnull
      · rw [hepoch] at hvalue
        rw [ScanValue.timestamp.inj (OutputCell.value.inj hvalue)]
        exact Or.inr hdenotes
  · intro hall
    -- the moment in the cell is the one that the text denotes
    have hdenotes : ∀ val, Delivered toChar server column val → denotes (cellString val) =
        some ((lib.fromString (cellString val)).getD lib.epoch) := by
      intro val hval
      cases hparse : lib.fromString (cellString val) with
      | some t => exact hexact _ t hparse
      | none =>
        refine (hall val hval).resolve_left fun ⟨t, ht⟩ => ?_
        rw [hparse] at ht
        cases ht
    constructor
    · exact fun val hval => Or.inr ⟨_, hdenotes val hval, hcell val hval⟩
    · intro val val' hval hval' hne' _
      right
      rw [hcell val hval, hcell val' hval']
      intro hsame
      rw [hdenotes val hval, hdenotes val' hval',
        ScanValue.timestamp.inj (OutputCell.value.inj hsame)] at hne'
      exact hne' rfl

end

/-! ## Two moments -/

/-- Of the two moments 1970-01-01 00:00:00 and 2024-01-01 09:00:00 (UTC), the second as a
session in Paris writes it when the format is the default one. -/
def momentText (format : String) (second : Bool) : List Char :=
  if format = "DD-MON-RR HH.MI.SSXFF AM TZR" then
    if second then "01-JAN-24 10.00.00.000000 AM +01:00".toList
    else "01-JAN-70 01.00.00.000000 AM +01:00".toList
  else if second then "2024-01-01 09:00:00".toList
  else "1970-01-01 00:00:00".toList

/-- Which of the two moments a text denotes. -/
def momentOf (s : List Char) : Option Bool :=
  if s = "2024-01-01 09:00:00".toList ∨ s = "01-JAN-24 10.00.00.000000 AM +01:00".toList then
    some true
  else if s = "1970-01-01 00:00:00".toList ∨ s = "01-JAN-70 01.00.00.000000 AM +01:00".toList then
    some false
  else none

/-- A library whose `Timestamp::FromString` accepts ISO texts only. -/
def isoLibrary : Library Unit Unit Bool where
  stof _ := none
  stod _ := none
  fromString s :=
    if s = "2024-01-01 09:00:00".toList then some true
    else if s = "1970-01-01 00:00:00".toList then some false
    else none
  epoch := false
  castDecimal _ _ _ := none
  castUser _ _ := none

/-- A server with Oracle's default formats. -/
def defaultFormats : NlsFormats :=
  ⟨"DD-MON-RR", "DD-MON-RR HH.MI.SSXFF AM", "DD-MON-RR HH.MI.SSXFF AM TZR"⟩

theorem isoLibrary_exact (s : List Char) (t : Bool) (h : isoLibrary.fromString s = some t) :
    momentOf s = some t := by
  simp only [isoLibrary] at h
  split_ifs at h with htrue hfalse
  · rw [htrue, ← h]
    decide
  · rw [hfalse, ← h]
    decide

theorem momentText_ne_nil (format : String) (second : Bool) : momentText format second ≠ [] := by
  unfold momentText
  split_ifs <;> decide

/-- The dates of a `DATE` column are all parsed. -/
theorem timestamps_exact_date :
    NeverInvented isoLibrary momentOf { name := "D", dataType := .dat }
      (Delivered momentText defaultFormats { name := "D", dataType := .dat }) :=
  (timestamps_exact_iff isoLibrary momentText momentOf defaultFormats _ isoLibrary_exact
      momentText_ne_nil).mpr <| by
    rintro val ⟨format, t, hformat, htext⟩
    obtain rfl := Option.some.inj hformat
    rw [htext]
    refine Or.inl ⟨t, ?_⟩
    cases t <;> decide

/-- **An invented timestamp**: 2024-01-01 10:00:00 in Paris becomes 1970-01-01 00:00:00. -/
theorem zonedTimestamp_invented :
    timestampCell isoLibrary { name := "T", dataType := .timestampTz }
        (asciiBytes "01-JAN-24 10.00.00.000000 AM +01:00") = .value (.timestamp false) ∧
      ¬ NeverInvented isoLibrary momentOf { name := "T", dataType := .timestampTz }
        (Delivered momentText defaultFormats { name := "T", dataType := .timestampTz }) := by
  refine ⟨by decide, fun hinvented => ?_⟩
  have hdelivered : Delivered momentText defaultFormats { name := "T", dataType := .timestampTz }
      (asciiBytes "01-JAN-24 10.00.00.000000 AM +01:00") :=
    ⟨_, true, rfl, by decide⟩
  rcases hinvented.exact _ hdelivered with hnull | ⟨t, hdenotes, hvalue⟩
  · exact absurd hnull (by decide)
  · have hfalse : timestampCell isoLibrary { name := "T", dataType := .timestampTz }
        (asciiBytes "01-JAN-24 10.00.00.000000 AM +01:00") = .value (.timestamp false) := by decide
    rw [hfalse] at hvalue
    rw [← ScanValue.timestamp.inj (OutputCell.value.inj hvalue)] at hdenotes
    exact absurd hdenotes (by decide)

end Scan
end DuckdbOracle
