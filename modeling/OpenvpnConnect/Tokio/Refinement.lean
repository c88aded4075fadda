import OpenvpnConnect.Client.Theorems
import OpenvpnConnect.Tokio.Moves

namespace OpenvpnConnect.Tokio

open Transition
open OpenvpnConnect.Client (Outcome Lifecycle)

section Refinement

variable {φ η : Type} [DecidableEq φ] [DecidableEq η] {capabilities : Capabilities} {capacity : Nat}

def coreView : Event φ η → Option (Client.Event (Actor φ η))
  | .Core event => some event
  | _ => none

theorem absorb_core (state : State φ η) (event : Client.Event (Actor φ η)) :
    (absorb state event).core = state.core := by
  unfold absorb
  split <;> rfl

theorem foldl_absorb_core (state : State φ η) (seen : List (Client.Event (Actor φ η))) :
    (seen.foldl absorb state).core = state.core := by
  induction seen generalizing state with
  | nil => rfl
  | cons event rest ih => rw [List.foldl_cons, ih, absorb_core]

omit [DecidableEq φ] [DecidableEq η] in
theorem filterMap_coreView_map (seen : List (Client.Event (Actor φ η))) :
    (seen.map (Event.Core (φ := φ))).filterMap coreView = seen := by
  induction seen with
  | nil => rfl
  | cons event rest ih => simpa [coreView] using ih

omit [DecidableEq φ] [DecidableEq η] in
theorem Session.Move.quiet {session next : Session η} {future : φ} {seen : List (Event φ η)}
    (hm : session.Move capacity future next seen) : seen.filterMap coreView = [] := by
  cases hm <;> rfl

omit [DecidableEq φ] [DecidableEq η] in
theorem Cause.quiet {session next : Session η} {actor : Actor φ η} {front : List (Event φ η)}
    (hcause : Cause session actor next front) : front.filterMap coreView = [] := by
  cases hcause <;> rfl

-- A step of the Tokio client leaves the synchronous client alone or is one of its steps.
theorem Move.core {state after : State φ η} {seen : List (Event φ η)}
    (hm : Move capabilities capacity state after seen) :
    (after.core = state.core ∧ seen.filterMap coreView = []) ∨
      ∃ label, Client.step capabilities state.core label = some (after.core, seen.filterMap coreView) := by
  cases hm with
  | SessionMoved future hsession hmove => exact .inl ⟨rfl, hmove.quiet⟩
  | JobRefused future config error hjob hinvalid hcall =>
      refine .inr ⟨.Evaluate (.Job future) config, ?_⟩
      simp [Client.step, Client.evaluate, hcall, hinvalid, State.setJob, coreView]
  | JobRun future mutation hjob hvalid hcall =>
      refine .inr ⟨mutation.label (.Job future), ?_⟩
      cases mutation with
      | Evaluate config =>
          simp [Mutation.label, Client.step, Client.evaluate, hcall, hvalid config rfl, State.calls,
            State.setJob, Mutation.frame, Mutation.call, coreView]
      | _ =>
          simp [Mutation.label, Client.step, hcall, State.calls, State.setJob, Mutation.frame,
            Mutation.call, coreView]
  | WorkerRun future session hsession hqueued hcall =>
      refine .inr ⟨.Connect (.Worker future) true, ?_⟩
      simp [Client.step, hcall, State.calls, State.setSession, coreView, Client.connectCall]
  | StopCalled actor hsession hcause hcall =>
      refine .inr ⟨.Stop actor, ?_⟩
      rw [List.filterMap_append, hcause.quiet]
      simp [Client.step, hcall, State.calls, State.setSession, coreView]
  | CoreMoved actor hstep hmove hframe hreturned =>
      rw [foldl_absorb_core, filterMap_coreView_map]
      exact .inr ⟨_, hstep⟩
  | _ => exact .inl ⟨rfl, rfl⟩

theorem refines_client (capabilities : Capabilities) (capacity : Nat) :
    Refines (machine capabilities capacity : Machine (State φ η) (Label φ η) (Event φ η))
      (Client.machine capabilities) (fun state core => state.core = core) coreView := by
  rintro before core label after seen rfl hs
  rcases (step_move hs).core with ⟨hcore, hquiet⟩ | ⟨move, hmove⟩
  · exact .inl ⟨hcore, hquiet⟩
  · exact .inr ⟨move, after.core, hmove, rfl⟩

variable {guard : List (Event φ η) → State φ η → Label φ η → Prop} {trace : List (Event φ η)}
  {last : State φ η}

-- What the synchronous client sees of a run is a run of its own.
theorem run_core (hrun : Run (machine capabilities capacity) guard State.new trace last) :
    Reaches (Client.machine capabilities) Client.State.new (trace.filterMap coreView) last.core := by
  obtain ⟨core, hcore, rfl⟩ := (refines_client capabilities capacity).reaches rfl hrun
  exact hcore

end Refinement

end OpenvpnConnect.Tokio
