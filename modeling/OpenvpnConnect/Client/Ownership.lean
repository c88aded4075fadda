import OpenvpnConnect.Client.Moves

namespace OpenvpnConnect.Client

open Transition

-- What a thread has to do with the clones of the client.
inductive Hold
  | Nothing
  | Borrow
  | Last
deriving DecidableEq, Repr

def Frame.hold : Frame → Hold
  | .Idle => .Nothing
  | .DropSwap | .DropStop | .DropFree => .Last
  | _ => .Borrow

-- Calls borrow a clone that lives, and one thread drops the last one.
structure Owned {ι : Type} (state : State ι) : Prop where
  borrowed : ∀ thread, thread ∈ state.borrowers ↔ (state.frame thread).hold = .Borrow
  shared : ∀ thread ∈ state.borrowers, 0 < state.clones
  last : ∀ thread, (state.frame thread).hold = .Last → state.clones = 0 ∧ state.freed = false
  alone : ∀ first second, (state.frame first).hold = .Last → (state.frame second).hold = .Last →
    first = second
  freed : state.freed = true → state.clones = 0

section Ownership

variable {ι : Type}

theorem owned_new : Owned (State.new : State ι) := by
  constructor <;> simp [State.new, Frame.hold]

-- Ownership reads four fields of the state.
theorem Owned.of_eq {state after : State ι} (howned : Owned state)
    (hborrowers : after.borrowers = state.borrowers) (hclones : after.clones = state.clones)
    (hfreed : after.freed = state.freed) (hframe : after.frame = state.frame) : Owned after := by
  constructor
  · rw [hborrowers, hframe]; exact howned.borrowed
  · rw [hborrowers, hclones]; exact howned.shared
  · rw [hframe, hclones, hfreed]; exact howned.last
  · rw [hframe]; exact howned.alone
  · rw [hfreed, hclones]; exact howned.freed

-- Nothing holds a client whose last clone is gone.
theorem Owned.hold_of_freed {state : State ι} (howned : Owned state) (hfreed : state.freed = true)
    (thread : ι) : (state.frame thread).hold = .Nothing := by
  have hclones := howned.freed hfreed
  cases hh : (state.frame thread).hold with
  | Nothing => rfl
  | Borrow =>
      have hpos := howned.shared thread ((howned.borrowed thread).mpr hh)
      omega
  | Last =>
      have hlive := (howned.last thread hh).2
      simp [hfreed] at hlive

theorem Owned.hold_of_unborrowed {state : State ι} (howned : Owned state)
    (hnone : state.borrowers = ∅) (thread : ι) : (state.frame thread).hold ≠ .Borrow := by
  intro hh
  simpa [hnone] using (howned.borrowed thread).mpr hh

theorem Owned.not_last {state : State ι} (howned : Owned state) (hclones : 0 < state.clones)
    (thread : ι) : (state.frame thread).hold ≠ .Last := by
  intro hh
  have hzero := (howned.last thread hh).1
  omega

variable [DecidableEq ι]

attribute [local grind =] State.frame_goto State.goto State.leave State.enter State.callable

-- A thread that keeps its hold moves freely.
theorem Owned.goto {state : State ι} {thread : ι} {frame : Frame} (howned : Owned state)
    (hhold : frame.hold = (state.frame thread).hold) : Owned (state.goto thread frame) := by
  obtain ⟨hborrowed, hshared, hlast, halone, hfreed⟩ := howned
  constructor <;> grind

theorem Owned.enter {state : State ι} {thread : ι} {frame : Frame} (howned : Owned state)
    (hcall : state.callable thread) (hhold : frame.hold = .Borrow) :
    Owned (state.enter thread frame) := by
  have hnotlast := howned.not_last hcall.2
  obtain ⟨hborrowed, hshared, hlast, halone, hfreed⟩ := howned
  constructor <;> grind

theorem Owned.leave {state : State ι} {thread : ι} (howned : Owned state)
    (hhold : (state.frame thread).hold = .Borrow) : Owned (state.leave thread) := by
  obtain ⟨hborrowed, hshared, hlast, halone, hfreed⟩ := howned
  have hidle : Frame.Idle.hold = .Nothing := rfl
  constructor <;> grind

omit [DecidableEq ι] in
theorem Owned.recount {state : State ι} {clones : Nat} (howned : Owned state)
    (hbefore : 0 < state.clones) (hafter : 0 < clones) : Owned { state with clones := clones } := by
  have hnotlast := howned.not_last hbefore
  refine ⟨howned.borrowed, fun _ _ => hafter, ?_, howned.alone, ?_⟩
  · intro thread hh
    exact absurd hh (hnotlast thread)
  · intro hfreed
    have hzero := howned.freed hfreed
    omega

theorem Owned.lastDropped {state : State ι} {thread : ι} (howned : Owned state)
    (hcall : state.callable thread) (hnone : state.borrowers = ∅) :
    Owned ({ state with clones := 0 }.goto thread .DropSwap) := by
  have hnotlast := howned.not_last hcall.2
  have hunborrowed := howned.hold_of_unborrowed hnone
  have hlive : state.freed = false := by
    by_contra hfreed
    have hzero := howned.freed (by simpa using hfreed)
    have hpos := hcall.2
    omega
  obtain ⟨hborrowed, hshared, hlast, halone, hfreed⟩ := howned
  have hdrop : Frame.DropSwap.hold = .Last := rfl
  constructor <;> grind

theorem Owned.free {state : State ι} {thread : ι} (howned : Owned state)
    (hhold : (state.frame thread).hold = .Last) :
    Owned ({ state with freed := true }.goto thread .Idle) := by
  obtain ⟨hborrowed, hshared, hlast, halone, hfreed⟩ := howned
  have hidle : Frame.Idle.hold = .Nothing := rfl
  constructor <;> grind

theorem Entry.hold {call : Call} {frame : Frame} (hentry : Entry call frame) :
    frame.hold = .Borrow := by
  cases hentry <;> rfl

theorem Waiting.hold {call : Call} {frame : Frame} (hwait : Waiting call frame) :
    frame.hold = .Borrow := by
  cases hwait <;> rfl

theorem Owned.move {state after : State ι} {thread : ι} {seen : List (Event ι)}
    (howned : Owned state) (hm : Move thread state after seen) : Owned after := by
  cases hm with
  | Unsupported _ _ => exact howned
  | Entered hentry hcall => exact howned.enter hcall hentry.hold
  | Cloned hcall => exact howned.recount hcall.2 (Nat.succ_pos _)
  | Dropped _ hclones => exact howned.recount (by omega) (by omega)
  | LastDropped hcall hnone => exact howned.lastDropped hcall hnone
  | Refused _ hwait hframe _ _ _ => exact howned.leave (hframe ▸ hwait.hold)
  | EvaluateAdmitted hframe _ _ =>
      exact Owned.goto (howned.of_eq rfl rfl rfl rfl) (by simp [hframe, Frame.hold])
  | CredentialsAdmitted hframe _ _ =>
      exact Owned.goto (howned.of_eq rfl rfl rfl rfl) (by simp [hframe, Frame.hold])
  | ConnectAdmitted _ hframe _ _ =>
      exact Owned.goto (howned.of_eq rfl rfl rfl rfl) (by simp [hframe, Frame.hold])
  | StopReset _ hframe => exact Owned.goto (howned.of_eq rfl rfl rfl rfl) (by simp [hframe, Frame.hold])
  | NativeEntered _ hframe => exact Owned.goto (howned.of_eq rfl rfl rfl rfl) (by simp [hframe, Frame.hold])
  | SetupDone _ hframe => exact Owned.goto (howned.of_eq rfl rfl rfl rfl) (by simp [hframe, Frame.hold])
  | RunEntered _ hframe =>
      exact Owned.goto (howned.of_eq rfl rfl rfl rfl) (by rcases hframe with hf | hf <;> simp [hf, Frame.hold])
  | ConnectLeft _ _ hframe _ => exact Owned.goto (howned.of_eq rfl rfl rfl rfl) (by simp [hframe, Frame.hold])
  | ConnectUnwound _ hframe => exact howned.goto (by simp [hframe, Frame.hold])
  | Finished _ _ hframe _ => exact Owned.leave (howned.of_eq rfl rfl rfl rfl) (by simp [hframe, Frame.hold])
  | StopRepeated hframe _ => exact howned.leave (by simp [hframe, Frame.hold])
  | StopFirst hframe _ => exact Owned.goto (howned.of_eq rfl rfl rfl rfl) (by simp [hframe, Frame.hold])
  | StopDelivered hframe => exact howned.leave (by simp [hframe, Frame.hold])
  | DropRepeated hframe _ => exact howned.goto (by simp [hframe, Frame.hold])
  | DropFirst hframe _ => exact Owned.goto (howned.of_eq rfl rfl rfl rfl) (by simp [hframe, Frame.hold])
  | DropDelivered hframe => exact howned.goto (by simp [hframe, Frame.hold])
  | Freed hframe => exact howned.free (by simp [hframe, Frame.hold])
  | Evaluated hframe => exact Owned.leave (howned.of_eq rfl rfl rfl rfl) (by simp [hframe, Frame.hold])
  | EvaluateFailed _ hframe _ => exact Owned.leave (howned.of_eq rfl rfl rfl rfl) (by simp [hframe, Frame.hold])
  | CredentialsReturned _ hframe =>
      exact Owned.leave (howned.of_eq rfl rfl rfl rfl) (by simp [hframe, Frame.hold])
  | SelfTestReturned _ hframe => exact howned.leave (by simp [hframe, Frame.hold])
  | CoreReturned _ _ hframe =>
      exact Owned.goto (howned.of_eq rfl rfl rfl rfl)
        (by rcases hframe with hf | hf | hf <;> simp [hf, Frame.hold])

end Ownership

end OpenvpnConnect.Client
