import DuckdbOracle.Connection.PoolAccounting

/-!
# Who holds a session

A call of `Acquire` that has returned owns the handle it returned until that
handle is destroyed.  Nothing in the pool says so: a handle is a number, and the
session behind it is found through it.  This file proves that ownership is
exclusive, whatever the interleaving: a handle was returned by one call only
(`Returned`), a session sits in one live handle only (`Placed`), so two calls
never hold the same session (`sessionOf_unique`); and a call keeps the session it
holds until its own handle is destroyed.
-/

namespace DuckdbOracle
namespace Connection

open Catalog StepRuns Tally

/-- The handle a call has returned, while it is alive. -/
def handleOf (m : OracleConnectionManager) (c : ℕ) : Option OracleConnectionHandle :=
  match m.calls[c]? with
  | some call =>
    match call.phase with
    | .returned h =>
      match m.handles[h]? with
      | some handle? => handle?
      | none => none
    | _ => none
  | none => none

/-- The session a call holds. -/
def sessionOf (m : OracleConnectionManager) (c : ℕ) : Option ℕ :=
  (handleOf m c).map (·.ctx.id)

/-- A call counts for the handle it has returned. -/
def returnedShare (h : ℕ) (call : AcquireCall) : ℕ :=
  if call.phase = .returned h then 1 else 0

/-- Every handle was returned by one call at most, and one that is still to be made
by none. -/
def Returned (m : OracleConnectionManager) : Prop :=
  ∀ h, tally (returnedShare h) m.calls ≤ (if h < m.handles.length then 1 else 0)

theorem handleOf_eq_some_iff {m : OracleConnectionManager} {c : ℕ}
    {handle : OracleConnectionHandle} :
    handleOf m c = some handle ↔
      ∃ call h, m.calls[c]? = some call ∧ call.phase = .returned h ∧
        m.handles[h]? = some (some handle) := by
  unfold handleOf
  constructor
  · intro hsome
    split at hsome
    · next call hc =>
      split at hsome
      · next h hphase =>
        split at hsome
        · next handle? hh => exact ⟨call, h, hc, hphase, by rw [hh, hsome]⟩
        · exact absurd hsome (by simp)
      · exact absurd hsome (by simp)
    · exact absurd hsome (by simp)
  · rintro ⟨call, h, hc, hphase, hh⟩
    simp only [hc, hphase, hh]

theorem sessionOf_eq_some_iff {m : OracleConnectionManager} {c s : ℕ} :
    sessionOf m c = some s ↔
      ∃ call h handle, m.calls[c]? = some call ∧ call.phase = .returned h ∧
        m.handles[h]? = some (some handle) ∧ handle.ctx.id = s := by
  rw [sessionOf, Option.map_eq_some_iff]
  constructor
  · rintro ⟨handle, hsome, rfl⟩
    obtain ⟨call, h, hc, hphase, hh⟩ := handleOf_eq_some_iff.mp hsome
    exact ⟨call, h, handle, hc, hphase, hh, rfl⟩
  · rintro ⟨call, h, handle, hc, hphase, hh, rfl⟩
    exact ⟨handle, handleOf_eq_some_iff.mpr ⟨call, h, hc, hphase, hh⟩, rfl⟩

/-! ## One call for each handle -/

theorem returned_initial : Returned initial := by
  intro h
  simp [initial]

theorem Returned.of_eq {m m' : OracleConnectionManager} (hr : Returned m)
    (hlen : m'.handles.length = m.handles.length)
    (h : ∀ h, tally (returnedShare h) m'.calls = tally (returnedShare h) m.calls) :
    Returned m' := by
  intro h'
  rw [h h', hlen]
  exact hr h'

/-- A call that has not returned yet returns the next handle. -/
theorem Returned.concat {m m' : OracleConnectionManager} (hr : Returned m) {c : ℕ}
    {call : AcquireCall} (hc : m.calls[c]? = some call)
    (hphase : ∀ h, call.phase ≠ .returned h)
    (hcalls : m'.calls = m.calls.set c { call with phase := .returned m.handles.length })
    (hlen : m'.handles.length = m.handles.length + 1) : Returned m' := by
  intro h
  have hold := hr h
  have hset := tally_set (returnedShare h) hc { call with phase := .returned m.handles.length }
  have hzero : returnedShare h call = 0 := if_neg (hphase h)
  rw [hcalls, hlen]
  by_cases hh : m.handles.length = h
  · subst hh
    rw [if_neg (lt_irrefl _)] at hold
    rw [if_pos (Nat.lt_succ_self _)]
    have hone : returnedShare m.handles.length
        { call with phase := .returned m.handles.length } = 1 := if_pos rfl
    omega
  · have hnone : returnedShare h { call with phase := .returned m.handles.length } = 0 :=
      if_neg (by simpa using hh)
    have hiff : h < m.handles.length + 1 ↔ h < m.handles.length := by omega
    simp only [hiff]
    omega

theorem Admits.not_returned {call : AcquireCall} {p : ℕ} {pool₀ pool : OracleConnectionPool}
    (h : Admits call p pool₀ pool) (n : ℕ) : call.phase ≠ .returned n := by
  rcases h with ⟨h, -⟩ | ⟨h, -⟩ <;> rw [h] <;> simp

theorem Notify.returned {p : ℕ} {calls calls' : List AcquireCall} (h : Notify p calls calls')
    (n : ℕ) : tally (returnedShare n) calls' = tally (returnedShare n) calls := by
  cases h with
  | nobody _ => rfl
  | woke hw hphase => exact tally_set_eq _ hw (by simp [returnedShare, hphase])

/-- **Steps keep one call for each handle.** -/
theorem Returned.step {m m' : OracleConnectionManager} {e : Event} (hr : Returned m)
    (h : Transition m e m') : Returned m' := by
  cases h with
  | standalone _ | found _ _ | made _ _ =>
    exact hr.of_eq rfl fun h => by simp [returnedShare]
  | take hc _ hadm _ => exact hr.concat hc hadm.not_returned rfl (by simp)
  | reserve hc _ hadm _ _ | block hc _ hadm _ _ =>
    exact hr.of_eq rfl fun h =>
      tally_set_eq _ hc (by simp [returnedShare, hadm.not_returned h])
  | timeout hc hphase | threwAlone hc hphase | expired hc hphase | spurious hc hphase
  | late hc hphase =>
    exact hr.of_eq rfl fun h => tally_set_eq _ hc (by simp [returnedShare, hphase])
  | connected hc hphase | connectedAlone hc hphase =>
    exact hr.concat hc (by rw [hphase]; simp) rfl (by simp)
  | threw hc hphase _ hn =>
    refine hr.of_eq rfl fun h => (hn.returned h).trans ?_
    exact tally_set_eq _ hc (by simp [returnedShare, hphase])
  | released _ _ hn => exact hr.of_eq (by simp) fun h => hn.returned h
  | releasedAlone _ => exact hr.of_eq (by simp) fun _ => rfl
  | cleared => exact hr

/-- **Two calls never hold the same session.** -/
theorem sessionOf_unique {m : OracleConnectionManager} (hp : Placed m) (hr : Returned m)
    {c c' s : ℕ} (h : sessionOf m c = some s) (h' : sessionOf m c' = some s) : c = c' := by
  obtain ⟨call, i, handle, hc, hphase, hi, hid⟩ := sessionOf_eq_some_iff.mp h
  obtain ⟨call', j, handle', hc', hphase', hj, hid'⟩ := sessionOf_eq_some_iff.mp h'
  have hholders : holders m s ≤ 1 := by
    have hs := hp s
    split at hs <;> omega
  have hij : i = j := by
    refine index_unique hholders hi hj ?_ ?_
    · rw [holderShare, if_pos hid]
      exact Nat.one_pos
    · rw [holderShare, if_pos hid']
      exact Nat.one_pos
  subst hij
  have hcalls : tally (returnedShare i) m.calls ≤ 1 := by
    have hi := hr i
    split at hi <;> omega
  refine index_unique hcalls hc hc' ?_ ?_
  · rw [returnedShare, if_pos hphase]
    exact Nat.one_pos
  · rw [returnedShare, if_pos hphase']
    exact Nat.one_pos

/-! ## How long a session is held -/

/-- What keeps the session of a call: its entry and its handle stay. -/
theorem sessionOf_of {m m' : OracleConnectionManager} {c s : ℕ} (h : sessionOf m c = some s)
    (hcall : ∀ call n, m.calls[c]? = some call → call.phase = .returned n →
      m'.calls[c]? = some call)
    (hhandle : ∀ call n handle, m.calls[c]? = some call → call.phase = .returned n →
      m.handles[n]? = some (some handle) → m'.handles[n]? = some (some handle)) :
    sessionOf m' c = some s := by
  obtain ⟨call, n, handle, hc, hphase, hn, hid⟩ := sessionOf_eq_some_iff.mp h
  exact sessionOf_eq_some_iff.mpr
    ⟨call, n, handle, hcall call n hc hphase, hphase, hhandle call n handle hc hphase hn, hid⟩

/-- An update of a call that has not returned leaves the returned calls alone. -/
theorem getElem?_set_of_not_returned {calls : List AcquireCall} {c c' n : ℕ}
    {call call' new : AcquireCall} (hc : calls[c]? = some call)
    (hphase : ∀ n, call.phase ≠ .returned n) (hc' : calls[c']? = some call')
    (hphase' : call'.phase = .returned n) : (calls.set c new)[c']? = some call' := by
  by_cases heq : c' = c
  · subst heq
    rw [hc] at hc'
    obtain rfl := Option.some.inj hc'
    exact absurd hphase' (hphase n)
  · rw [getElem?_set_of_ne heq, hc']

theorem Notify.getElem? {p c n : ℕ} {calls calls' : List AcquireCall}
    (h : Notify p calls calls') {call : AcquireCall} (hc : calls[c]? = some call)
    (hphase : call.phase = .returned n) : calls'[c]? = some call := by
  cases h with
  | nobody _ => exact hc
  | woke hw hwait =>
    exact getElem?_set_of_not_returned hw (by rw [hwait]; simp) hc hphase

/-- **A call keeps its session** in every step but the destruction of a handle. -/
theorem Transition.sessionOf {m m' : OracleConnectionManager} {e : Event}
    (h : Transition m e m') (he : ∀ n woken, e ≠ .release n woken) {c s : ℕ}
    (hs : sessionOf m c = some s) : Connection.sessionOf m' c = some s := by
  cases h with
  | standalone _ | found _ _ | made _ _ =>
    exact sessionOf_of hs (fun call n hc _ => getElem?_concat_of hc _) fun _ _ _ _ _ hn => hn
  | take hc _ hadm _ =>
    exact sessionOf_of hs
      (fun call n hc' => getElem?_set_of_not_returned hc hadm.not_returned hc')
      fun _ _ _ _ _ hn => getElem?_concat_of hn _
  | reserve hc _ hadm _ _ | block hc _ hadm _ _ =>
    exact sessionOf_of hs
      (fun call n hc' => getElem?_set_of_not_returned hc hadm.not_returned hc')
      fun _ _ _ _ _ hn => hn
  | timeout hc hphase | threwAlone hc hphase | expired hc hphase | spurious hc hphase
  | late hc hphase =>
    exact sessionOf_of hs
      (fun call n hc' => getElem?_set_of_not_returned hc (by rw [hphase]; simp) hc')
      fun _ _ _ _ _ hn => hn
  | connected hc hphase | connectedAlone hc hphase =>
    exact sessionOf_of hs
      (fun call n hc' => getElem?_set_of_not_returned hc (by rw [hphase]; simp) hc')
      fun _ _ _ _ _ hn => getElem?_concat_of hn _
  | threw hc hphase _ hnotify =>
    exact sessionOf_of hs
      (fun call n hc' hret => hnotify.getElem?
        (getElem?_set_of_not_returned hc (by rw [hphase]; simp) hc' hret) hret)
      fun _ _ _ _ _ hn => hn
  | released _ _ _ => exact absurd rfl (he _ _)
  | releasedAlone _ => exact absurd rfl (he _ _)
  | cleared => exact hs

/-- The destruction of a handle takes the session from the call that returned the
handle, and from no other. -/
theorem Transition.sessionOf_release {m m' : OracleConnectionManager} {n : ℕ}
    {woken : Option ℕ} (h : Transition m (.release n woken) m') (hr : Returned m) {c c' s : ℕ}
    {call : AcquireCall} (hc : m.calls[c]? = some call) (hphase : call.phase = .returned n)
    (hne : c' ≠ c) (hs : Connection.sessionOf m c' = some s) :
    Connection.sessionOf m' c' = some s := by
  -- another call has returned another handle
  have hother : ∀ call' k, m.calls[c']? = some call' → call'.phase = .returned k → k ≠ n := by
    rintro call' k hc' hphase' rfl
    have hone : tally (returnedShare k) m.calls ≤ 1 := by
      have hk := hr k
      split at hk <;> omega
    refine hne (index_unique hone hc' hc ?_ ?_)
    · rw [returnedShare, if_pos hphase']
      exact Nat.one_pos
    · rw [returnedShare, if_pos hphase]
      exact Nat.one_pos
  cases h with
  | released _ _ hnotify =>
    refine sessionOf_of hs (fun call' k hc' hret => hnotify.getElem? hc' hret) ?_
    intro call' k handle hc' hret hk
    rw [getElem?_set_of_ne (hother call' k hc' hret), hk]
  | releasedAlone _ =>
    refine sessionOf_of hs (fun _ _ hc' _ => hc') ?_
    intro call' k handle hc' hret hk
    rw [getElem?_set_of_ne (hother call' k hc' hret), hk]

end Connection
end DuckdbOracle
