import OpenvpnConnect.Tokio.Labels
import OpenvpnConnect.Tokio.Sessions

namespace OpenvpnConnect.Tokio

open Transition
open OpenvpnConnect.Client (Outcome Lifecycle)

-- A worker at such a frame is inside native connect.
def connecting : Client.Frame → Bool
  | .ConnectSetup _ | .ConnectEnabled _ | .ConnectRun _ | .CoreReturned _ _ => true
  | _ => false

section Stoppable

variable {φ η : Type} [DecidableEq φ] [DecidableEq η]

-- Stop can still be requested through the Session or a handle, or the token is cancelled.
def Session.stoppable (session : Session η) : Bool :=
  decide (session.object = .Live) || session.spare || session.cancelled

def Event.stops (future : φ) : Event φ η → Bool
  | .Core (.Called actor .Stop) => decide (actor.future = future)
  | _ => false

-- Somebody can still stop the session that the future has started, or has.
def Stoppable (trace : List (Event φ η)) (state : State φ η) (future : φ) : Prop :=
  state.future future = .AwaitStarted ∨ (state.session future).any Session.stoppable = true ∨
    trace.any (Event.stops future) = true

instance (trace : List (Event φ η)) (state : State φ η) (future : φ) :
    Decidable (Stoppable trace state future) :=
  inferInstanceAs (Decidable (_ ∨ _ ∨ _))

-- The worker of the future has native connect behind it, or will be refused.
def State.spent (state : State φ η) (future : φ) : Prop :=
  state.core.lifecycle = .Finished ∨ (state.core.frame (.Worker future)).role = .Leaves

-- A connect future that waits for its worker is dropped only when that is over.
def Kept (_ : List (Event φ η)) (state : State φ η) : Label φ η → Prop
  | .Drop future => state.future future = .AwaitStarted → state.spent future
  | _ => True

instance (trace : List (Event φ η)) (state : State φ η) (label : Label φ η) :
    Decidable (Kept trace state label) :=
  match label with
  | .Drop future => inferInstanceAs (Decidable (state.future future = .AwaitStarted →
      state.core.lifecycle = .Finished ∨ (state.core.frame (.Worker future)).role = .Leaves))
  | .Begin _ _ | .Lock _ | .Poll _ | .RunJob _ | .RunWorker _ | .Drive _ _ | .Core _ => isTrue trivial
  | .NativeReturn _ _ | .Send _ _ | .CloneHandle _ | .DropHandle _ | .CancelToken _ => isTrue trivial
  | .Cancel _ _ | .PollSession _ | .DropSession _ _ => isTrue trivial

variable {capabilities : Capabilities} {capacity : Nat}

-- What is over for a worker stays over.
theorem State.spent_move {state after : State φ η} {future : φ} {seen : List (Event φ η)}
    {stage : Client.Session (Actor φ η)} (howned : Client.Owned state.core)
    (hd : Client.Describes stage state.core) (hspent : state.spent future)
    (hm : Move capabilities capacity state after seen) : after.spent future := by
  rcases hm.core with ⟨hcore, _⟩ | ⟨label, hstep⟩
  · unfold State.spent
    rwa [hcore]
  · have hmove := Client.step_move hstep
    rcases hspent with hfinished | hleaves
    · have hrank := hd.rank howned hmove
      rw [hfinished] at hrank
      exact .inl (Client.Lifecycle.eq_finished hrank)
    · by_cases hself : label.thread = .Worker future
      · exact .inl (hmove.finishes (hself ▸ hleaves))
      · right
        rwa [hmove.frame_ne (Ne.symm hself)]

theorem spent_of_connecting {state : State φ η} {future : φ} {stage : Client.Session (Actor φ η)}
    (hd : Client.Describes stage state.core)
    (hconnecting : connecting (state.core.frame (.Worker future)) = true) : ¬state.spent future := by
  obtain ⟨phase, hruns⟩ : ∃ phase, (state.core.frame (.Worker future)).role = .Runs phase := by
    cases hf : state.core.frame (.Worker future) <;>
      simp [hf, connecting, Client.Frame.role] at hconnecting ⊢
  have hstage := Client.Stage.of_runs ((hd.role _).symm.trans hruns)
  rintro (hfinished | hleaves)
  · simp [hd.lifecycle, hstage, Client.Stage.lifecycle] at hfinished
  · simp [hruns] at hleaves

-- A future that was dropped after it had started a session has left it when
-- the worker was done with native connect.
def Abandoned (state : State φ η) : Prop :=
  ∀ future session, state.session future = some session → state.future future = .Dropped →
    state.spent future

-- A future with a session comes to be dropped by a drop that leaves the session behind.
theorem Move.dropped {state after : State φ η} {future : φ} {session : Session η}
    {seen : List (Event φ η)} (hm : Move capabilities capacity state after seen) (hs : Sessions state)
    (hsession : after.session future = some session) (hdropped : after.future future = .Dropped) :
    (state.future future = .Dropped ∧ ∃ before, state.session future = some before) ∨
      state.future future = .AwaitStarted ∧ .Abandoned future ∈ seen := by
  have hbegun := hs.begun future
  cases hm with
  | CoreMoved actor _ _ _ _ =>
      rw [(foldl_absorb_future _ _).1] at hdropped
      rw [foldl_absorb_session, Option.map_eq_some_iff] at hsession
      obtain ⟨before, hbefore, _⟩ := hsession
      exact .inl ⟨hdropped, before, hbefore⟩
  | _ => grind [ready, Future.spawns]

theorem run_abandoned {trace : List (Event φ η)} {last : State φ η}
    (hrun : Run (machine capabilities capacity) Kept State.new trace last) : Abandoned last := by
  refine hrun.invariant_with
    (fun _ state => Sound state ∧ Client.Owned state.core ∧ ∃ stage, Client.Describes stage state.core)
    (fun _ => Abandoned) (fun _ _ => run_known) ?_ ?_
  · intro future session hsession
    cases hsession
  · rintro _ before label after seen ⟨hsound, howned, stage, hd⟩ hinv hkept hs future session hsession
      hdropped
    have hm := step_move hs
    rcases hm.dropped hsound.sessions hsession hdropped with ⟨hbefore, rest, hrest⟩ | ⟨hawaits, hmem⟩
    · exact State.spent_move howned hd (hinv future rest hrest hbefore) hm
    · rcases step_label hs hmem rfl with ⟨other, _, he⟩ | ⟨other, rfl, he⟩
      · cases he
      · cases he
        exact State.spent_move howned hd (hkept hawaits) hm

-- No session runs that nobody can stop, as long as no connect future is dropped too early.
theorem session_stoppable {trace : List (Event φ η)} {last : State φ η}
    (hrun : Run (machine capabilities capacity) Kept State.new trace last) (future : φ)
    (hconnecting : connecting (last.core.frame (.Worker future)) = true) :
    Stoppable trace last future := by
  obtain ⟨hsound, _, stage, hd⟩ := run_known hrun
  have hbusy : last.core.frame (.Worker future) ≠ .Idle := by
    intro hidle
    simp [hidle, connecting] at hconnecting
  obtain ⟨session, hsession, hrunning⟩ := hsound.sessions.of_busy hbusy
  have hok := hsound.sessions.ok future session hsession
  by_cases hborn : session.object.born = true
  · right; left
    rcases hok.gone hborn with hlive | hcancelled | hexited
    · simp [hsession, Session.stoppable, hlive]
    · simp [hsession, Session.stoppable, hcancelled]
    · -- the driver outlives its worker
      obtain ⟨outcome, hdone⟩ := hok.joined (by simp [hexited, Driver.joined])
      simp [hrunning] at hdone
  · have hunborn : session.object = .Unborn := by
      cases ho : session.object <;> simp [ho, Object.born] at hborn ⊢
    rcases hsound.sessions.unborn future session hsession hunborn with hawaits | hdropped
    · exact .inl hawaits
    · exact absurd (run_abandoned hrun future session hsession hdropped)
        (spent_of_connecting hd hconnecting)

end Stoppable

-- A profile is evaluated, and a connect future has come to its worker.
def connectBegun : List (Label (Fin 3) (Fin 1)) :=
  [.Begin 0 (.Mutate (.Evaluate Client.plain)), .Lock 0, .Poll 0, .RunJob 0, .Core (.Job 0),
    .NativeReturn (.Job 0) (.ok ()), .Poll 0, .Begin 1 .Connect, .Lock 1, .Poll 1, .Poll 1]

-- From the worker's call to connect_run.
def workerRuns (future : Fin 3) : List (Label (Fin 3) (Fin 1)) :=
  .RunWorker future :: List.replicate 5 (.Core (.Worker future))

-- The future is dropped while Core sets the session up, and the session runs on.
theorem session_unstoppable : ∃ trace last,
    Reaches (machine Client.capable 4) (State.new : State (Fin 3) (Fin 1)) trace last ∧
      connecting (last.core.frame (.Worker 1)) = true ∧ last.core.core = .Accepting ∧
      ¬Stoppable trace last 1 :=
  exists_run (connectBegun ++ (workerRuns 1).take 4 ++ [.Drop 1, .Core (.Worker 1), .Core (.Worker 1)])
    (by decide)

-- A session is handed out and its Session dropped, which stops it.
theorem session_stoppable_dropped : ∃ trace last,
    Run (machine Client.capable 4) Kept (State.new : State (Fin 3) (Fin 1)) trace last ∧
      .Cancelled 1 ∈ trace ∧ Stoppable trace last 1 := by
  obtain ⟨trace, last, hrun, hmem, hconnecting⟩ : ∃ trace last,
      Run (machine Client.capable 4) Kept (State.new : State (Fin 3) (Fin 1)) trace last ∧
        .Cancelled 1 ∈ trace ∧ connecting (last.core.frame (.Worker 1)) = true :=
    exists_run (connectBegun ++ workerRuns 1 ++ [.Poll 1, .DropSession 1 0, .Core (.Holder 1 0)]) (by decide)
  exact ⟨trace, last, hrun, hmem, session_stoppable hrun 1 hconnecting⟩

end OpenvpnConnect.Tokio
