import OpenvpnConnect.External.Locks

namespace OpenvpnConnect.External

open Transition

section Context

variable {κ η ρ : Type}

-- A query has the lock and finds a parent.
def State.querying (state : State κ η ρ) (thread : Thread η) : Bool :=
  match state.stack thread with
  | .Inside client (.Query ..) :: _ => (state.client client).parent.isSome
  | _ => false

-- No query finds a parent on a thread other than the I/O thread.
def Synchronized (_ : List (Event κ η ρ)) (state : State κ η ρ) : Label κ η ρ → Prop
  | .Run (.App reader) => state.querying (.App reader) = false
  | _ => True

instance (trace : List (Event κ η ρ)) (state : State κ η ρ) (label : Label κ η ρ) :
    Decidable (Synchronized trace state label) :=
  match label with
  | .Run (.App _) => inferInstanceAs (Decidable (_ = _))
  | .Run .Io | .Construct .. | .Reparent .. | .Destroy _ | .Callback .. | .Execute | .Invoke ..
  | .Clone .. | .Drop .. | .Join .. | .Finish _ | .Lock _ | .Return .. => isTrue trivial

-- Methods of parents run on the I/O thread, now and in everything observed.
structure OnContext (trace : List (Event κ η ρ)) (state : State κ η ρ) : Prop where
  entered : ∀ thread client parent id method,
    .Entered thread client parent id method ∈ trace → thread = .Io
  executes : EveryFrame (fun thread frame => frame.executes → thread = .Io) state

theorem State.querying_eq {state : State κ η ρ} {thread : Thread η} {client : κ} {id : Ticket η}
    {call : Call} {method : Method} {rest : List (Frame κ η ρ)}
    (hstack : state.stack thread = .Inside client (.Query id call method) :: rest) :
    state.querying thread = (state.client client).parent.isSome := by
  simp [querying, hstack]

variable [DecidableEq κ] [DecidableEq η] {kind : κ → Kind}

theorem Enters.synchronized {state : State κ η ρ} {label : Label κ η ρ} {thread : Thread η}
    {frame : Frame κ η ρ} {trace : List (Event κ η ρ)} (hnew : Enters kind state label thread frame)
    (hs : Sound state) (hguard : Synchronized trace state label) (hexecutes : frame.executes) :
    thread = .Io := by
  cases hnew with
  | Queried hstack hparent =>
      cases thread with
      | Io => rfl
      | App reader =>
          have hquery : state.querying (.App reader) = false := hguard
          rw [State.querying_eq hstack, hparent] at hquery
          cases hquery
  | Parent hmem => exact hs.onIo _ _ hmem rfl
  | Dispatch _ _ hinline => exact hinline.2
  | _ => cases hexecutes

-- A method is entered with its frame.
theorem Move.entered {state after : State κ η ρ} {label : Label κ η ρ} {seen : List (Event κ η ρ)}
    {thread : Thread η} {client : κ} {parent : ρ} {id : Ticket η} {method : Method}
    (hm : Move kind state label after seen) (hmem : .Entered thread client parent id method ∈ seen) :
    ∃ frame, Enters kind state label thread frame ∧ frame.executes := by
  cases hm with
  | Queried hstack hparent =>
      obtain ⟨rfl, rfl, rfl, rfl, rfl⟩ : _ ∧ _ ∧ _ ∧ _ ∧ _ := by simpa using hmem
      exact ⟨_, .Queried hstack hparent, rfl⟩
  | ParentEntered hstack =>
      obtain ⟨rfl, rfl, rfl, rfl, rfl⟩ : _ ∧ _ ∧ _ ∧ _ ∧ _ := by simpa using hmem
      exact ⟨_, .Parent (mem_stack_of_tail hstack).1, rfl⟩
  | _ => simp at hmem

theorem OnContext.step {state after : State κ η ρ} {label : Label κ η ρ}
    {trace seen : List (Event κ η ρ)} (ho : OnContext trace state) (hs : Sound state)
    (hguard : Synchronized trace state label) (hm : Move kind state label after seen) :
    OnContext (trace ++ seen) after where
  entered := by
    intro thread client parent id method hmem
    rcases List.mem_append.mp hmem with hold | hnew
    · exact ho.entered thread client parent id method hold
    · obtain ⟨frame, henters, hexecutes⟩ := hm.entered hnew
      exact henters.synchronized hs hguard hexecutes
  executes := hm.everyFrame ho.executes fun _ _ hnew hexecutes =>
    hnew.synchronized hs hguard hexecutes

theorem run_onContext {trace : List (Event κ η ρ)} {last : State κ η ρ}
    (hrun : Run (machine kind) Synchronized .new trace last) : OnContext trace last :=
  hrun.invariant_with (fun _ state => Sound state) OnContext (fun _ _ h => run_sound h)
    ⟨by simp, everyFrame_new _⟩
    fun _ _ _ _ _ hs ho hguard hstep => ho.step hs hguard (step_move hstep)

-- The excluded step enters the parent on the thread of its caller.
theorem querying_enters {state : State κ η ρ} {thread : Thread η}
    (hq : state.querying thread = true) : ∃ after client parent id method,
      step kind state (.Run thread) = some (after, [.Entered thread client parent id method]) := by
  unfold State.querying at hq
  split at hq
  · rename_i client id call method rest hstack
    obtain ⟨parent, hparent⟩ := Option.isSome_iff_exists.mp hq
    exact ⟨state.goto thread (.Queried client parent id call method :: rest), client, parent, id, method,
      by simp [step, runFrame, runSection, query, hstack, hparent]⟩
  · cases hq

-- Every method of a parent runs on the I/O thread in every run whose queries
-- find a parent on that thread only, and any other query breaks this.
theorem parent_on_context {trace : List (Event κ η ρ)} {last : State κ η ρ}
    (hrun : Run (machine kind) Synchronized .new trace last) :
    (∀ thread client parent id method, .Entered thread client parent id method ∈ trace → thread = .Io) ∧
      (∀ thread frame, frame ∈ last.stack thread → frame.executes → thread = .Io) ∧
      ∀ reader, last.querying (.App reader) → ∃ after client parent id method,
        step kind last (.Run (.App reader)) =
          some (after, [.Entered (.App reader) client parent id method]) :=
  ⟨(run_onContext hrun).entered, (run_onContext hrun).executes, fun _ hq => querying_enters hq⟩

end Context

-- The application asks on its own thread, from the handle that start gave it.
def asks : List (Label Unit (Fin 1) (Fin 1)) :=
  [.Construct () 0, .Callback .Io () .Start, .Return .Io .none,
    .Invoke (.App 0) () (.Transport .IsKeepaliveEnabled), .Lock (.App 0), .Run (.App 0)]

theorem parent_off_context : ∃ trace last,
    Reaches (machine fun _ => .Transport) (State.new : State Unit (Fin 1) (Fin 1)) trace last ∧
      .Entered (.App 0) () 0 ⟨.App 0, 0⟩ .IsKeepaliveEnabled ∈ trace ∧
      last.stack (.App 0) =
        [.Queried () 0 ⟨.App 0, 0⟩ (.Transport .IsKeepaliveEnabled) .IsKeepaliveEnabled] :=
  exists_run asks (by decide)

-- A packet of a reader thread is delivered from the queue, a query is made in
-- a callback.
def receives : List (Label Unit (Fin 1) (Fin 1)) :=
  [.Construct () 0, .Callback .Io () .Start, .Invoke .Io () (.Transport .IsOpenvpnProtocol),
    .Lock .Io, .Run .Io, .Return .Io .none, .Return .Io .none,
    .Invoke (.App 0) () (.Transport (.Receive [1, 2])), .Lock (.App 0), .Run (.App 0),
    .Execute, .Lock .Io, .Run .Io, .Run .Io]

theorem parent_on_context_receives : ∃ trace last,
    Run (machine fun _ => .Transport) Synchronized (State.new : State Unit (Fin 1) (Fin 1)) trace last ∧
      .Entered .Io () 0 ⟨.App 0, 1⟩ (.TransportRecv ⟨2, 0, [1, 2]⟩) ∈ trace ∧
      ∀ thread client parent id method,
        .Entered thread client parent id method ∈ trace → thread = .Io := by
  obtain ⟨trace, last, hrun, hmem⟩ : ∃ trace last,
      Run (machine fun _ => .Transport) Synchronized (State.new : State Unit (Fin 1) (Fin 1)) trace last ∧
        .Entered .Io () 0 ⟨.App 0, 1⟩ (.TransportRecv ⟨2, 0, [1, 2]⟩) ∈ trace := exists_run receives (by decide)
  exact ⟨trace, last, hrun, hmem, (parent_on_context hrun).1⟩

end OpenvpnConnect.External
