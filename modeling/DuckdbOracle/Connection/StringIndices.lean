import DuckdbOracle.Connection.ConnectionString
import DuckdbOracle.Foundations.StdString

/-!
# Reading a connection string with machine indices

The parser of connection strings works with positions of type `size_t`, where *not found*
is a number as well, and writes into three out parameters.  Here it is with these
positions: every sum, every difference and every cut is a checked one, and the tests come
one after the other, as `||` evaluates them.

No check ever fails (`parseWithIndices_eq`): the tests refuse what is not found before any
test computes with it.  So the parser reads exactly the strings that are credentials with
their delimiters, and assigns nothing when it refuses one.
-/

namespace DuckdbOracle
namespace Connection

open StdString

/-! ## The parser -/

/-- The five tests, in their order. -/
def refuses (s : StdString) (slashPos atPos : UInt64) : Except IndexFault Bool :=
  if slashPos = npos ∨ atPos = npos ∨ slashPos = 0 then .ok true
  else do
    let next ← checkedAdd slashPos 1
    if atPos ≤ next then return true
    else
      let last ← checkedSub s.size 1
      return decide (atPos = last)

/-- The text of a string. -/
def textOf (s : StdString) : String := String.ofList s.chars

/-- The three assignments. -/
def assignParts (s : StdString) (slashPos atPos : UInt64) (out : OracleCredentials) :
    Except IndexFault OracleCredentials := do
  let user ← s.substr 0 slashPos
  let out := { out with user := textOf user }
  let start ← checkedAdd slashPos 1
  let distance ← checkedSub atPos slashPos
  let length ← checkedSub distance 1
  let password ← s.substr start length
  let out := { out with password := textOf password }
  let start ← checkedAdd atPos 1
  let db ← s.substr start npos
  return { out with db := textOf db }

/-- `ParseOracleConnectionString`: whether it returns or throws, and the values of `user`,
`password` and `db` after it. -/
def parseWithIndices (s : StdString) (out : OracleCredentials) :
    Except IndexFault (Except String Unit × OracleCredentials) := do
  let slashPos := s.find '/' 0
  let atPos := s.find '@' (if slashPos = npos then 0 else slashPos)
  if ← refuses s slashPos atPos then
    return (.error invalidConnectionString, out)
  else
    let out ← assignParts s slashPos atPos out
    return (.ok (), out)

/-! ## No check fails -/

/-- What the parser with unbounded positions answers. -/
def answer (out : OracleCredentials) :
    Except String OracleCredentials → Except String Unit × OracleCredentials
  | .ok c => (.ok (), c)
  | .error e => (.error e, out)

theorem refuses_of_found {s : StdString} {slash at_ : ℕ} (hslash : slash < s.chars.length)
    (hat : at_ < s.chars.length) :
    refuses s (.ofNat slash) (.ofNat at_) =
      .ok (decide (slash = 0 ∨ at_ ≤ slash + 1 ∨ at_ = s.chars.length - 1)) := by
  have hshort := s.short
  have htests : (UInt64.ofNat slash = npos ∨ UInt64.ofNat at_ = npos ∨ UInt64.ofNat slash = 0) ↔
      slash = 0 := by
    rw [or_iff_right (ofNat_ne_npos (Nat.le_of_lt hslash)),
      or_iff_right (ofNat_ne_npos (Nat.le_of_lt hat))]
    exact @ofNat_inj slash 0 (by omega) (by omega)
  have hadd : checkedAdd (.ofNat slash) 1 = .ok (.ofNat (slash + 1)) :=
    @checkedAdd_ofNat slash 1 (by omega)
  have hsub : checkedSub s.size 1 = .ok (.ofNat (s.chars.length - 1)) :=
    @checkedSub_ofNat _ 1 (by omega) (by omega)
  have hle : UInt64.ofNat at_ ≤ UInt64.ofNat (slash + 1) ↔ at_ ≤ slash + 1 :=
    ofNat_le_ofNat (by omega) (by omega)
  have hlast : UInt64.ofNat at_ = UInt64.ofNat (s.chars.length - 1) ↔ at_ = s.chars.length - 1 :=
    ofNat_inj (by omega) (by omega)
  rw [refuses]
  by_cases hzero : slash = 0
  · rw [if_pos (htests.mpr hzero), decide_eq_true (Or.inl hzero)]
  · rw [if_neg (fun h => hzero (htests.mp h)), hadd]
    show (if UInt64.ofNat at_ ≤ UInt64.ofNat (slash + 1) then Except.ok true
      else (checkedSub s.size 1).bind fun last => .ok (decide (UInt64.ofNat at_ = last))) = _
    by_cases hnear : at_ ≤ slash + 1
    · rw [if_pos (hle.mpr hnear), decide_eq_true (Or.inr (Or.inl hnear))]
    · rw [if_neg (fun h => hnear (hle.mp h)), hsub]
      exact congrArg Except.ok (decide_eq_decide.mpr
        (hlast.trans ((or_iff_right hzero).trans (or_iff_right hnear)).symm))

/-- What is not found is refused by the first two tests. -/
theorem refuses_npos {s : StdString} {slashPos atPos : UInt64}
    (h : slashPos = npos ∨ atPos = npos) : refuses s slashPos atPos = .ok true := by
  rw [refuses, if_pos (h.imp_right Or.inl)]

/-- Two delimiters that pass the tests: the three parts are cut where they are. -/
theorem assignParts_of_found {s : StdString} {slash at_ : ℕ} (hlt : slash + 1 < at_)
    (hat : at_ < s.chars.length) (out : OracleCredentials) :
    assignParts s (.ofNat slash) (.ofNat at_) out = .ok {
      user := String.ofList (s.chars.take slash)
      password := String.ofList ((s.chars.drop (slash + 1)).take (at_ - slash - 1))
      db := String.ofList (s.chars.drop (at_ + 1)) } := by
  have hshort := s.short
  have hnext : checkedAdd (.ofNat slash) 1 = .ok (.ofNat (slash + 1)) :=
    @checkedAdd_ofNat slash 1 (by omega)
  have hdistance : checkedSub (.ofNat at_) (.ofNat slash) = .ok (.ofNat (at_ - slash)) :=
    checkedSub_ofNat (by omega) (by omega)
  have hlength : checkedSub (.ofNat (at_ - slash)) 1 = .ok (.ofNat (at_ - slash - 1)) :=
    @checkedSub_ofNat _ 1 (by omega) (by omega)
  have hbehind : checkedAdd (.ofNat at_) 1 = .ok (.ofNat (at_ + 1)) :=
    @checkedAdd_ofNat at_ 1 (by omega)
  obtain ⟨user, huser, huserChars⟩ := @substr_ofNat s 0 slash (Nat.zero_le _) (by omega)
  obtain ⟨password, hpassword, hpasswordChars⟩ :=
    @substr_ofNat s (slash + 1) (at_ - slash - 1) (by omega) (by omega)
  obtain ⟨db, hdb, hdbChars⟩ := @substr_npos s (at_ + 1) hat
  rw [List.drop_zero] at huserChars
  have huser : s.substr 0 (.ofNat slash) = .ok user := huser
  simp only [assignParts, huser, hnext, hdistance, hlength, hpassword, hbehind, hdb, ok_bind,
    textOf, huserChars, hpasswordChars, hdbChars]
  rfl

theorem parseWithIndices_of_refused {s : StdString} {out : OracleCredentials}
    (h : refuses s (s.find '/' 0) (s.find '@' (if s.find '/' 0 = npos then 0 else s.find '/' 0)) =
      .ok true) :
    parseWithIndices s out = .ok (.error invalidConnectionString, out) := by
  rw [parseWithIndices, h]
  rfl

/-- **No check fails**, and the answer is that of the parser with unbounded positions; what
is refused leaves the out parameters as they are. -/
theorem parseWithIndices_eq (s : StdString) (out : OracleCredentials) :
    parseWithIndices s out = .ok (answer out (parseOracleConnectionString (textOf s))) := by
  have hshort := s.short
  have htext : (textOf s).toList = s.chars := String.toList_ofList
  have hfindSlash : s.find '/' 0 = (findFrom s.chars '/' 0).elim npos .ofNat :=
    @find_ofNat s '/' 0 (by omega)
  cases hslash : findFrom s.chars '/' 0 with
  | none =>
    have hnone : s.find '/' 0 = npos := by rw [hfindSlash, hslash, Option.elim_none]
    rw [parseWithIndices_of_refused (refuses_npos (Or.inl hnone))]
    simp only [parseOracleConnectionString, htext, hslash, answer]
  | some slash =>
    obtain ⟨-, hslashLt⟩ := @index?_lt s '/' 0 slash hslash
    have hsome : s.find '/' 0 = .ofNat slash := by rw [hfindSlash, hslash, Option.elim_some]
    have hstart : (if s.find '/' 0 = npos then 0 else s.find '/' 0) = .ofNat slash := by
      rw [hsome, if_neg (ofNat_ne_npos (Nat.le_of_lt hslashLt))]
    have hfindAt : s.find '@' (.ofNat slash) = (findFrom s.chars '@' slash).elim npos .ofNat :=
      @find_ofNat s '@' slash (by omega)
    cases hat : findFrom s.chars '@' slash with
    | none =>
      have hnone : s.find '@' (.ofNat slash) = npos := by rw [hfindAt, hat, Option.elim_none]
      rw [parseWithIndices_of_refused (refuses_npos (Or.inr (by rw [hstart, hnone])))]
      simp only [parseOracleConnectionString, htext, hslash, Option.getD_some, hat, answer]
    | some at_ =>
      obtain ⟨-, hatLt⟩ := @index?_lt s '@' slash at_ hat
      have hatPos : s.find '@' (.ofNat slash) = .ofNat at_ := by
        rw [hfindAt, hat, Option.elim_some]
      have hrefuses := refuses_of_found hslashLt hatLt
      by_cases hbad : slash = 0 ∨ at_ ≤ slash + 1 ∨ at_ = s.chars.length - 1
      · rw [decide_eq_true hbad] at hrefuses
        rw [parseWithIndices_of_refused (by rw [hstart, hatPos, hsome, hrefuses])]
        simp only [parseOracleConnectionString, htext, hslash, Option.getD_some, hat, if_pos hbad,
          answer]
      · have hparts := @assignParts_of_found s slash at_ (by omega) hatLt out
        rw [decide_eq_false hbad] at hrefuses
        rw [parseWithIndices, hstart, hsome, hatPos, hrefuses]
        simp only [ok_bind, Bool.false_eq_true, if_false, hparts, parseOracleConnectionString,
          htext, hslash, Option.getD_some, hat, if_neg hbad, answer]
        rfl

/-! ## What is read -/

/-- The string is the credentials with their delimiters: the grammar. -/
def OracleCredentials.Spells (c : OracleCredentials) (s : StdString) : Prop :=
  s.chars = c.text ∧ c.Readable

theorem parse_textOf_iff {s : StdString} {c : OracleCredentials} :
    parseOracleConnectionString (textOf s) = .ok c ↔ c.Spells s := by
  rw [parseOracleConnectionString_eq_ok_iff, textOf, String.toList_ofList, OracleCredentials.Spells]

/-- The parser refuses with one text only. -/
theorem eq_invalid_of_parse {s error : String}
    (h : parseOracleConnectionString s = .error error) : error = invalidConnectionString := by
  simp only [parseOracleConnectionString] at h
  split at h
  · split at h
    · exact (Except.error.inj h).symm
    · cases h
  · exact (Except.error.inj h).symm

/-- **The parser accepts exactly its grammar.**  No sum or difference of its positions
wraps, and none is out of range.  It returns credentials if and only if they spell the
string, which no others do; if none spell it, it throws and leaves its out parameters as
they were. -/
theorem parseWithIndices_exact (s : StdString) (out : OracleCredentials) :
    (∀ fault, parseWithIndices s out ≠ .error fault) ∧
    (∀ c, parseWithIndices s out = .ok (.ok (), c) ↔ c.Spells s) ∧
    (∀ c c' : OracleCredentials, c.Spells s → c'.Spells s → c = c') ∧
    (parseWithIndices s out = .ok (.error invalidConnectionString, out) ↔
      ∀ c, ¬ OracleCredentials.Spells c s) := by
  have hunique : ∀ c c' : OracleCredentials, c.Spells s → c'.Spells s → c = c' := by
    intro c c' hc hc'
    exact Except.ok.inj ((parse_textOf_iff.mpr hc).symm.trans (parse_textOf_iff.mpr hc'))
  rw [parseWithIndices_eq]
  refine ⟨fun fault => nofun, ?_, hunique, ?_⟩
  · intro c
    rw [← parse_textOf_iff]
    cases parseOracleConnectionString (textOf s) with
    | ok c' => simp only [answer, Except.ok.injEq, Prod.mk.injEq, true_and]
    | error e => simp only [answer, Except.ok.injEq, Prod.mk.injEq, reduceCtorEq, false_and]
  · cases hparse : parseOracleConnectionString (textOf s) with
    | ok c' =>
      have hspells := parse_textOf_iff.mp hparse
      simp only [answer, Except.ok.injEq, Prod.mk.injEq, reduceCtorEq, false_and, false_iff,
        not_forall, not_not]
      exact ⟨c', hspells⟩
    | error e =>
      rw [answer, eq_invalid_of_parse hparse, eq_self_iff_true, true_iff]
      intro c hc
      exact nomatch (parse_textOf_iff.mpr hc).symm.trans hparse

end Connection
end DuckdbOracle
