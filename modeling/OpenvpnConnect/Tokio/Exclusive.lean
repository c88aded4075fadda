import OpenvpnConnect.Tokio.Setup

namespace OpenvpnConnect.Tokio

open Transition
open OpenvpnConnect.Client (Outcome Lifecycle)

section Exclusive

variable {φ η : Type}

-- The driver of the future's session still has its guard.
def State.activity (state : State φ η) (future : φ) : Bool :=
  match state.session future with
  | some session => session.driver.active
  | none => false

-- The flag is set exactly while a driver has its guard, and only one has.
structure Exclusive (state : State φ η) : Prop where
  active : ∀ future, state.activity future = true → state.sessionActive = true
  alone : ∀ first second, state.activity first = true → state.activity second = true → first = second
  flagged : state.sessionActive = true → ∃ future, state.activity future = true

theorem exclusive_new : Exclusive (State.new : State φ η) := by
  constructor <;> simp [State.new, State.activity]

theorem Session.Move.active {capacity : Nat} {future : φ} {session next : Session η}
    {seen : List (Event φ η)} (hm : session.Move capacity future next seen) :
    next.driver.active = session.driver.active := by
  cases hm <;> simp_all [Driver.active]

theorem Cause.active {session next : Session η} {actor : Actor φ η} {front : List (Event φ η)}
    (hcause : Cause session actor next front) : next.driver.active = session.driver.active := by
  cases hcause with
  | Joined future outcome hjoinable _ =>
      cases hd : session.driver <;> simp [hd, Driver.joinable, Driver.active] at hjoinable ⊢
  | _ => simp_all [Driver.active]

theorem Exclusive.of_eq {state after : State φ η} (hx : Exclusive state)
    (hactivity : ∀ future, after.activity future = state.activity future)
    (hactive : after.sessionActive = state.sessionActive) : Exclusive after := by
  constructor
  · intro future h
    rw [hactive]
    exact hx.active future (hactivity future ▸ h)
  · intro first second hfirst hsecond
    rw [hactivity] at hfirst hsecond
    exact hx.alone first second hfirst hsecond
  · intro h
    rw [hactive] at h
    simp only [hactivity]
    exact hx.flagged h

variable [DecidableEq φ] [DecidableEq η] {capabilities : Capabilities} {capacity : Nat}

omit [DecidableEq η] in
theorem activity_setSession (state : State φ η) (future other : φ) (session : Session η) :
    (state.setSession future session).activity other =
      if other = future then session.driver.active else state.activity other := by
  unfold State.activity
  rw [State.session_setSession]
  split <;> split <;> simp_all

theorem Session.absorb_active (future : φ) (session : Session η) (event : Client.Event (Actor φ η)) :
    (session.absorb future event).driver.active = session.driver.active := by
  unfold Session.absorb
  split
  · split <;> rfl
  · split <;> rfl
  · split
    · unfold Session.stopReturned
      split <;> simp_all [Driver.active]
    · rfl
  · split
    · unfold Session.holderReturned
      split <;> rfl
    · rfl
  · rfl

theorem foldl_absorb_activity (state : State φ η) (seen : List (Client.Event (Actor φ η)))
    (future : φ) : (seen.foldl absorb state).activity future = state.activity future := by
  unfold State.activity
  rw [foldl_absorb_session]
  cases state.session future with
  | none => rfl
  | some session =>
      rw [Option.map_some]
      induction seen generalizing session with
      | nil => rfl
      | cons event rest ih => exact (ih (session.absorb future event)).trans (Session.absorb_active ..)

omit [DecidableEq η] in
-- A session that changes without losing or gaining its guard.
theorem Exclusive.setSession {state : State φ η} {future : φ} {session next : Session η}
    (hx : Exclusive state) (hsession : state.session future = some session)
    (hactive : next.driver.active = session.driver.active) :
    Exclusive (state.setSession future next) := by
  refine hx.of_eq (fun other => ?_) rfl
  rw [activity_setSession]
  split
  · rename_i heq
    simp [heq, State.activity, hsession, hactive]
  · rfl

omit [DecidableEq η] in
theorem Exclusive.exchanged {state : State φ η} (hx : Exclusive state) {future : φ}
    (hidle : state.sessionActive = false) :
    Exclusive (({ state with sessionActive := true }.goto future .AwaitStarted).setSession future
      spawnDriver) := by
  have hnone : ∀ other, state.activity other = false := by
    intro other
    by_contra hne
    simp [hx.active other (by simpa using hne)] at hidle
  have hactivity : ∀ other,
      ((({ state with sessionActive := true } : State φ η).goto future .AwaitStarted).setSession future
        spawnDriver).activity other = decide (other = future) := by
    intro other
    rw [activity_setSession]
    by_cases heq : other = future
    · simp [heq, spawnDriver, Driver.active]
    · rw [if_neg heq, decide_eq_false heq]
      exact hnone other
  constructor
  · exact fun _ _ => rfl
  · intro first second hfirst hsecond
    rw [hactivity] at hfirst hsecond
    exact (of_decide_eq_true hfirst).trans (of_decide_eq_true hsecond).symm
  · exact fun _ => ⟨future, by simp [hactivity]⟩

omit [DecidableEq η] in
theorem Exclusive.cleared {state : State φ η} (hx : Exclusive state) {future : φ}
    {session : Session η} {result : Outcome} (hsession : state.session future = some session)
    (hdriver : session.driver = .GuardClear result) :
    Exclusive ({ state with sessionActive := false }.setSession future
      { session with driver := .Complete result }) := by
  have hself : state.activity future = true := by simp [State.activity, hsession, hdriver, Driver.active]
  have hnone : ∀ other, (({ state with sessionActive := false } : State φ η).setSession future
      { session with driver := .Complete result }).activity other = false := by
    intro other
    rw [activity_setSession]
    by_cases heq : other = future
    · rw [if_pos heq]
      rfl
    · rw [if_neg heq]
      by_contra hne
      have hother : state.activity other = true := by simpa [State.activity] using hne
      exact heq (hx.alone other future hother hself)
  constructor <;> simp [hnone]

theorem Exclusive.move {state after : State φ η} {seen : List (Event φ η)} (hx : Exclusive state)
    (hm : Move capabilities capacity state after seen)
    (hstarted : ∀ future session, state.session future = some session → session.started ≠ .Closed) :
    Exclusive after := by
  cases hm with
  | Exchanged future hfuture hidle => exact hx.exchanged hidle
  | Connected future session hfuture hsession _ | Abandoned future session hfuture hsession =>
      exact Exclusive.setSession (hx.of_eq (fun _ => rfl) rfl) hsession rfl
  | NeverStarted future session outcome hfuture hsession hclosed =>
      exact absurd hclosed (hstarted future session hsession)
  | SessionMoved future hsession hmove => exact hx.setSession hsession hmove.active
  | GuardCleared future session result hsession hdriver => exact hx.cleared hsession hdriver
  | WorkerRun future session hsession _ _ =>
      have hset : Exclusive (state.setSession future { session with worker := .Running }) :=
        hx.setSession hsession rfl
      exact hset.of_eq (fun _ => rfl) rfl
  | StopCalled actor hsession hcause _ =>
      exact Exclusive.of_eq (hx.setSession hsession hcause.active) (fun _ => rfl) rfl
  | CoreMoved actor _ _ _ _ =>
      exact hx.of_eq (foldl_absorb_activity _ _) (foldl_absorb_future _ _).2
  | _ => exact hx.of_eq (fun _ => rfl) rfl

end Exclusive

end OpenvpnConnect.Tokio
