import DuckdbOracle.Oci.Sessions

/-!
# What the operations return

A scan that is open is a queue of rows: those of its query that it has still to give.  Each call of
`OracleQueryFunction` takes some off the front, at least one unless there are none; every other
operation leaves the queue as it is, also those on the same session.  The rows that are taken off
are returned, unless OCI does not say how many they are: then they are lost, and the chunk is empty.
`Turn` says this of one operation, `Turns.opened` what the calls for one scan return in a whole run,
and `Turns.opened_counted` what they return if no rows are lost.

For the statements that are freed before their function returns, `System.Answers` says what it
returns.
-/

namespace DuckdbOracle
namespace Oci

open HandleTable Programs

/-! ## Queues -/

section Feeds

variable (server : String → Answer)

/-- The rows of its query that a statement has still to give. -/
def Phase.rest : Phase → List Scan.Row
  | .allocated => []
  | .prepared sql | .described sql => (server sql).rows
  | .executed sql _ fetched => (server sql).rows.drop fetched

/-- An open scan: the rows it has still to give, and whether it knows that there are none. -/
structure Feed where
  rest : List Scan.Row
  finished : Bool

/-- What a scan gives, with its statement at this phase; a `COPY` gives nothing. -/
def Cursor.feed (cursor : Cursor) (phase : Phase) : Option Feed :=
  if cursor.kind = .scan then some ⟨phase.rest server, cursor.finished⟩ else none

/-- The scan with a number: nothing if the number is not given yet, and no feed if the scan is
closed, or is a `COPY`. -/
def Ledger.feed (l : Ledger) (s : System) (c : ℕ) : Option (Option Feed) :=
  (s.cursors[c]?).map fun slot => slot.bind fun cursor => cursor.feed server (l.phase c)

/-- The batch that a scan returns. -/
def rowsOf (c : ℕ) : Outcome → Option (List Scan.Row)
  | (.scanNext c', .ok (.rows rows)) => if c' = c then some rows else none
  | (.scanNext c', .ok .uncounted) => if c' = c then some [] else none
  | _ => none

/-- A batch of a scan is lost: `OCIAttrGet` of `OCI_ATTR_ROWS_FETCHED` failed. -/
def loses (c : ℕ) : Outcome → Bool
  | (.scanNext c', .ok .uncounted) => c' = c
  | _ => false

/-- A scan or a `COPY` gets this number. -/
def opens (c : ℕ) : Outcome → Bool
  | (_, .ok (.opened c')) => c' = c
  | _ => false

/-- **What an operation does to a scan.** -/
inductive Turn (c : ℕ) : Outcome → Option (Option Feed) → Option (Option Feed) → Prop where
  | kept {o : Outcome} {feed : Option (Option Feed)} (hrows : rowsOf c o = none)
      (hopens : opens c o = false) : Turn c o feed feed
  | openedScan {i : ℕ} {data : Scan.OracleBindData} :
      Turn c (.openScan i data, .ok (.opened c)) none
        (some (some ⟨(server data.query).rows, false⟩))
  | openedCopy {i : ℕ} {sql : String} : Turn c (.openCopy i sql, .ok (.opened c)) none (some none)
  | fetched {rows rest : List Scan.Row} {finished : Bool} (hend : rows = [] → rest = [])
      (hfinished : finished = true → rest = []) :
      Turn c (.scanNext c, .ok (.rows rows)) (some (some ⟨rows ++ rest, false⟩))
        (some (some ⟨rest, finished⟩))
  | lost {rows rest : List Scan.Row} {finished : Bool} (hfinished : finished = true → rest = []) :
      Turn c (.scanNext c, .ok .uncounted) (some (some ⟨rows ++ rest, false⟩))
        (some (some ⟨rest, finished⟩))
  | drained {rest : List Scan.Row} :
      Turn c (.scanNext c, .ok (.rows [])) (some (some ⟨rest, true⟩)) (some (some ⟨rest, true⟩))
  | closed {feed : Option Feed} : Turn c (.close c, .ok .nothing) (some feed) (some none)

/-- What a run does to a scan. -/
inductive Turns (c : ℕ) : List Outcome → Option (Option Feed) → Option (Option Feed) → Prop where
  | nil {feed : Option (Option Feed)} : Turns c [] feed feed
  | cons {o : Outcome} {outcomes : List Outcome} {feed feed' feed'' : Option (Option Feed)}
      (h : Turn server c o feed feed') (hrest : Turns c outcomes feed' feed'') :
      Turns c (o :: outcomes) feed feed''

/-- The rows that a scan returns in a run, batch by batch. -/
def batches (c : ℕ) (outcomes : List Outcome) : List (List Scan.Row) :=
  outcomes.filterMap (rowsOf c)

variable {server} {c : ℕ} {o : Outcome} {outcomes : List Outcome}

theorem batches_cons_none (h : rowsOf c o = none) :
    batches c (o :: outcomes) = batches c outcomes := List.filterMap_cons_none h

theorem batches_cons_some {rows : List Scan.Row} (h : rowsOf c o = some rows) :
    batches c (o :: outcomes) = rows :: batches c outcomes := List.filterMap_cons_some h

@[simp] theorem rowsOf_scanNext (c : ℕ) (rows : List Scan.Row) :
    rowsOf c (.scanNext c, .ok (.rows rows)) = some rows := if_pos rfl

@[simp] theorem rowsOf_uncounted (c : ℕ) : rowsOf c (.scanNext c, .ok .uncounted) = some [] :=
  if_pos rfl

theorem loses_uncounted (c : ℕ) : loses c (.scanNext c, .ok .uncounted) = true :=
  decide_eq_true rfl

/-- A number is given once. -/
theorem Turns.not_opens {feed : Option Feed} {feed' : Option (Option Feed)}
    (h : Turns server c outcomes (some feed) feed') : ∀ o ∈ outcomes, opens c o = false := by
  generalize hfeed : some feed = start at h
  induction h generalizing feed with
  | nil => exact fun o ho => absurd ho List.not_mem_nil
  | cons hturn _ ih =>
    refine List.forall_mem_cons.mpr ⟨?_, ?_⟩
    · cases hturn with
      | kept _ hopens => exact hopens
      | openedScan | openedCopy => exact nomatch hfeed
      | fetched _ _ | lost _ | drained | closed => rfl
    · cases hturn with
      | kept _ _ => exact ih hfeed
      | openedScan | openedCopy => exact nomatch hfeed
      | fetched _ _ | lost _ | drained | closed => exact ih rfl

/-- A closed scan gives no more rows. -/
theorem Turns.dead {feed : Option (Option Feed)} (h : Turns server c outcomes (some none) feed) :
    batches c outcomes = [] := by
  generalize hfeed : some none = start at h
  induction h with
  | nil => rfl
  | cons hturn _ ih =>
    subst hfeed
    cases hturn with
    | kept hrows _ => exact (batches_cons_none hrows).trans (ih rfl)
    | closed => exact (batches_cons_none rfl).trans (ih rfl)

/-- **An open scan** gives some of the rows that it has, each once and in order. -/
theorem Turns.alive {rest : List Scan.Row} {finished : Bool} {feed : Option (Option Feed)}
    (h : Turns server c outcomes (some (some ⟨rest, finished⟩)) feed) :
    (batches c outcomes).flatten.Sublist rest := by
  generalize hfeed : some (some (Feed.mk rest finished)) = start at h
  induction h generalizing rest finished with
  | nil => exact List.nil_sublist rest
  | cons hturn hrest ih =>
    subst hfeed
    cases hturn with
    | kept hrows _ =>
      rw [batches_cons_none hrows]
      exact ih rfl
    | @fetched rows rest' finished' _ _ =>
      rw [batches_cons_some (rowsOf_scanNext c rows), List.flatten_cons]
      exact (List.append_sublist_append_left rows).mpr (ih rfl)
    | @lost rows rest' finished' _ =>
      rw [batches_cons_some (rowsOf_uncounted c), List.flatten_cons, List.nil_append]
      exact (ih rfl).trans (List.sublist_append_right rows rest')
    | drained =>
      rw [batches_cons_some (rowsOf_scanNext c []), List.flatten_cons, List.nil_append]
      exact ih rfl
    | closed =>
      rw [batches_cons_none rfl, Turns.dead hrest]
      exact List.nil_sublist rest

/-- **An open scan that loses nothing** gives rows off the front of those it has, and all of them
before it gives an empty batch. -/
theorem Turns.alive_counted {rest : List Scan.Row} {finished : Bool} {feed : Option (Option Feed)}
    (h : Turns server c outcomes (some (some ⟨rest, finished⟩)) feed)
    (hcounted : ∀ o ∈ outcomes, loses c o = false) (hfinished : finished = true → rest = []) :
    (batches c outcomes).flatten <+: rest ∧
      ([] ∈ batches c outcomes → (batches c outcomes).flatten = rest) := by
  generalize hfeed : some (some (Feed.mk rest finished)) = start at h
  induction h generalizing rest finished with
  | nil => exact ⟨List.nil_prefix, nofun⟩
  | cons hturn hrest ih =>
    subst hfeed
    obtain ⟨hfirst, hlater⟩ := List.forall_mem_cons.mp hcounted
    cases hturn with
    | kept hrows _ =>
      rw [batches_cons_none hrows]
      exact ih hlater hfinished rfl
    | @fetched rows rest' finished' hend hfinished' =>
      obtain ⟨hfront, hall⟩ := ih hlater hfinished' rfl
      rw [batches_cons_some (rowsOf_scanNext c rows), List.flatten_cons]
      refine ⟨(List.prefix_append_right_inj rows).mpr hfront, fun hmem => ?_⟩
      rcases List.mem_cons.mp hmem with hnil | hmem
      · rw [hend hnil.symm] at hfront ⊢
        rw [List.prefix_nil.mp hfront]
      · rw [hall hmem]
    | lost _ =>
      rw [loses_uncounted] at hfirst
      exact nomatch hfirst
    | drained =>
      obtain ⟨hfront, -⟩ := ih hlater hfinished rfl
      rw [batches_cons_some (rowsOf_scanNext c []), List.flatten_cons, List.nil_append]
      refine ⟨hfront, fun _ => ?_⟩
      rw [hfinished rfl] at hfront ⊢
      exact List.prefix_nil.mp hfront
    | closed =>
      rw [batches_cons_none rfl, Turns.dead hrest]
      exact ⟨List.nil_prefix, nofun⟩

/-- The operations after the one that opened a scan: it starts with all rows of its query. -/
theorem Turns.split {feed : Option (Option Feed)} (h : Turns server c outcomes none feed) {i : ℕ}
    {data : Scan.OracleBindData} (hmem : (.openScan i data, .ok (.opened c)) ∈ outcomes) :
    ∃ after, (∀ o ∈ after, o ∈ outcomes) ∧ batches c outcomes = batches c after ∧
      Turns server c after (some (some ⟨(server data.query).rows, false⟩)) feed := by
  have hopens : opens c (.openScan i data, .ok (.opened c)) = true := decide_eq_true rfl
  generalize hfeed : none = start at h
  induction h with
  | nil => exact absurd hmem List.not_mem_nil
  | @cons o outcomes _ _ _ hturn hrest ih =>
    subst hfeed
    rcases List.mem_cons.mp hmem with rfl | hlater
    · cases hturn with
      | kept _ hnot => exact absurd hopens (by rw [hnot]; decide)
      | openedScan =>
        exact ⟨outcomes, fun _ => List.mem_cons_of_mem _, batches_cons_none rfl, hrest⟩
    · cases hturn with
      | kept hrows _ =>
        obtain ⟨after, hsub, hbatches, hturns⟩ := ih hlater rfl
        exact ⟨after, fun o ho => List.mem_cons_of_mem _ (hsub o ho),
          (batches_cons_none hrows).trans hbatches, hturns⟩
      | openedScan | openedCopy =>
        exact absurd hopens (by rw [Turns.not_opens hrest _ hlater]; decide)

/-- **A scan that is opened in a run** gives some of its query's rows, each once and in order. -/
theorem Turns.opened {feed : Option (Option Feed)} (h : Turns server c outcomes none feed) {i : ℕ}
    {data : Scan.OracleBindData} (hmem : (.openScan i data, .ok (.opened c)) ∈ outcomes) :
    (batches c outcomes).flatten.Sublist (server data.query).rows := by
  obtain ⟨after, -, hbatches, hturns⟩ := h.split hmem
  rw [hbatches]
  exact hturns.alive

/-- If it loses none, they are the first ones, and all of them once it gives an empty batch. -/
theorem Turns.opened_counted {feed : Option (Option Feed)} (h : Turns server c outcomes none feed)
    {i : ℕ} {data : Scan.OracleBindData} (hmem : (.openScan i data, .ok (.opened c)) ∈ outcomes)
    (hcounted : ∀ o ∈ outcomes, loses c o = false) :
    (batches c outcomes).flatten <+: (server data.query).rows ∧
      ([] ∈ batches c outcomes → (batches c outcomes).flatten = (server data.query).rows) := by
  obtain ⟨after, hsub, hbatches, hturns⟩ := h.split hmem
  rw [hbatches]
  exact hturns.alive_counted (fun o ho => hcounted o (hsub o ho)) nofun

end Feeds

/-! ## Answers -/

/-- The reply of an operation on a handle, which must be alive. -/
def System.ifAlive (s : System) (h : ℕ) (reply : Reply) : Reply :=
  match s.manager.handles[h]? with
  | some (some _) => reply
  | _ => .dead

/-- **What a statement returns** that is freed before its function ends: all that the server has to
say about it. -/
def System.Answers (server : String → Answer) (affected : String → Catalog.StatementType × ℕ)
    (s : System) : Op → Reply → Prop
  | .query h sql, reply => reply = s.ifAlive h (.result (server sql).result)
  | .execute h sql, reply =>
    reply = s.ifAlive h (.text (Catalog.resultMsg (affected sql).1 (affected sql).2))
  | .bind h cs settings sql, reply =>
    reply = s.ifAlive h (.bound (Scan.oracleBindInternal cs sql settings (server sql).columns))
  | _, _ => True

end Oci
end DuckdbOracle
