import OpenvpnConnect.Client.Ownership
import OpenvpnConnect.Client.Session

namespace OpenvpnConnect.Client

open Transition

def Frame.role : Frame → Role
  | .EvaluateNative => .Evaluates
  | .CredentialsNative => .Supplies
  | .PrepareReset _ => .Admits
  | .ConnectNative _ => .Enters
  | .ConnectSetup _ => .Runs .Setup
  | .ConnectEnabled _ | .ConnectRun _ => .Runs .Accepting
  | .CoreReturned _ _ => .Runs .Returned
  | .LifecycleReset _ _ => .Leaves
  | _ => .Outside

section Refinement

variable {ι : Type} [DecidableEq ι]

-- The lifecycle, its lock, Core and the part of every thread follow from
-- where the session is.
structure Describes (session : Session ι) (state : State ι) : Prop where
  lifecycle : state.lifecycle = session.stage.lifecycle
  lock : state.lock = session.stage.lock
  core : state.core = session.stage.core
  freed : state.freed = session.freed
  role : ∀ thread, (state.frame thread).role = session.stage.role thread

theorem describes_new : Describes Session.new (State.new : State ι) :=
  ⟨rfl, rfl, rfl, rfl, fun _ => rfl⟩

theorem Stage.of_evaluates {stage : Stage ι} {thread : ι} (hr : stage.role thread = .Evaluates) :
    ∃ evaluated, stage = .Evaluating evaluated thread := by
  cases stage <;> grind [Stage.role]

theorem Stage.of_supplies {stage : Stage ι} {thread : ι} (hr : stage.role thread = .Supplies) :
    stage = .Supplying thread := by
  cases stage <;> grind [Stage.role]

theorem Stage.of_admits {stage : Stage ι} {thread : ι} (hr : stage.role thread = .Admits) :
    stage = .Admitted thread := by
  cases stage <;> grind [Stage.role]

theorem Stage.of_enters {stage : Stage ι} {thread : ι} (hr : stage.role thread = .Enters) :
    stage = .Entering thread := by
  cases stage <;> grind [Stage.role]

theorem Stage.of_runs {stage : Stage ι} {thread : ι} {phase : CorePhase}
    (hr : stage.role thread = .Runs phase) : stage = .Running thread phase := by
  cases stage <;> grind [Stage.role]

theorem Stage.of_leaves {stage : Stage ι} {thread : ι} (hr : stage.role thread = .Leaves) :
    stage = .Leaving thread := by
  cases stage <;> grind [Stage.role]

-- Only one thread has a part.
theorem Stage.role_unique {stage : Stage ι} {first second : ι}
    (hfirst : stage.role first ≠ .Outside) (hsecond : stage.role second ≠ .Outside) :
    first = second := by
  cases stage <;> grind [Stage.role]

omit [DecidableEq ι] in
theorem Stage.of_open {stage : Stage ι} (hlock : stage.lock = none)
    (hl : stage.lifecycle = .New ∨ stage.lifecycle = .Ready) :
    ∃ evaluated, stage = .Open evaluated ∧ (stage.lifecycle = .Ready → evaluated = true) := by
  cases stage with
  | Open evaluated => exact ⟨evaluated, rfl, by cases evaluated <;> simp [Stage.lifecycle]⟩
  | _ => simp [Stage.lock, Stage.lifecycle] at hlock hl

theorem Describes.quiet {session : Session ι} {state after : State ι} {thread : ι} {frame : Frame}
    (hd : Describes session state) (hlifecycle : after.lifecycle = state.lifecycle)
    (hlock : after.lock = state.lock) (hcore : after.core = state.core)
    (hfreed : after.freed = state.freed) (hframe : after.frame = state.frame)
    (hrole : frame.role = (state.frame thread).role) :
    Describes session (after.goto thread frame) := by
  refine ⟨hlifecycle.trans hd.lifecycle, hlock.trans hd.lock, hcore.trans hd.core,
    hfreed.trans hd.freed, ?_⟩
  intro other
  rw [State.frame_goto]
  split
  · rename_i heq
    rw [heq, hrole, hd.role]
  · rw [hframe, hd.role]

-- The thread that moves takes its part of the next stage, nobody else has one.
theorem Describes.advance {session : Session ι} {next : Stage ι} {state after : State ι} {thread : ι}
    {frame : Frame} (hd : Describes session state) (hlifecycle : after.lifecycle = next.lifecycle)
    (hlock : after.lock = next.lock) (hcore : after.core = next.core)
    (hfreed : after.freed = false) (hframe : after.frame = state.frame)
    (hrole : frame.role = next.role thread)
    (hothers : ∀ other, other ≠ thread → next.role other = session.stage.role other) :
    Describes ⟨next, false⟩ (after.goto thread frame) := by
  refine ⟨hlifecycle, hlock, hcore, hfreed, ?_⟩
  intro other
  rw [State.frame_goto]
  split
  · rename_i heq
    rw [heq, hrole]
  · rename_i hne
    rw [hframe, hd.role, hothers other hne]

omit [DecidableEq ι] in
theorem Owned.live {state : State ι} {thread : ι} {frame : Frame} (howned : Owned state)
    (hframe : state.frame thread = frame) (hhold : frame.hold ≠ .Nothing) : state.freed = false := by
  cases hfreed : state.freed with
  | false => rfl
  | true => exact absurd (howned.hold_of_freed hfreed thread) (hframe ▸ hhold)

omit [DecidableEq ι] in
theorem Session.step_stage {stage next : Stage ι} {act : Act ι} {seen : List (Event ι)}
    (hs : stage.step act = some (next, seen)) :
    Session.step ⟨stage, false⟩ act = some (⟨next, false⟩, seen) := by
  unfold Session.step
  simp only [Bool.false_eq_true, if_false]
  split
  · cases hs
  · cases hs
  · simp [hs]

-- What a step of the client is to the session: nothing, or one of its acts.
def Simulated (session : Session ι) (after : State ι) (seen : List (Event ι)) : Prop :=
  (Describes session after ∧ seen.filterMap view = []) ∨
    ∃ act next, session.step act = some (next, seen.filterMap view) ∧ Describes next after

theorem Describes.acts {session : Session ι} {next : Stage ι} {state after : State ι}
    {seen : List (Event ι)} (hd : Describes session state) (hlive : state.freed = false) (act : Act ι)
    (hs : session.stage.step act = some (next, seen.filterMap view))
    (hnext : Describes ⟨next, false⟩ after) : Simulated session after seen := by
  obtain ⟨stage, freed⟩ := session
  obtain rfl : freed = false := hd.freed.symm.trans hlive
  exact .inr ⟨act, ⟨next, false⟩, Session.step_stage hs, hnext⟩

-- A call that is refused or comes back leaves the session alone.
theorem Describes.outside {session : Session ι} {state after : State ι} {thread : ι}
    (hd : Describes session state) (hlifecycle : after.lifecycle = state.lifecycle)
    (hlock : after.lock = state.lock) (hcore : after.core = state.core)
    (hfreed : after.freed = state.freed) (hframe : after.frame = state.frame)
    (hrole : (state.frame thread).role = .Outside) : Describes session (after.leave thread) := by
  unfold State.leave
  exact Describes.quiet hd hlifecycle hlock hcore hfreed hframe hrole.symm

-- Who has a part in the session is in a call.
theorem Frame.hold_of_role {frame : Frame} (hr : frame.role ≠ .Outside) : frame.hold = .Borrow := by
  cases frame <;> simp [Frame.role, Frame.hold] at *

theorem Stage.of_outside {stage : Stage ι} (hr : ∀ thread, stage.role thread = .Outside) :
    (∃ evaluated, stage = .Open evaluated) ∨ stage = .Over := by
  cases stage with
  | Open evaluated => exact .inl ⟨evaluated, rfl⟩
  | Over => exact .inr rfl
  | Evaluating _ holder | Supplying holder | Admitted holder | Entering holder
  | Running holder _ | Leaving holder => simpa [Stage.role] using hr holder

-- Nobody is in a call when the last clone is dropped, so the session is open
-- or over by then.
theorem Describes.unborrowed {session : Session ι} {state : State ι} (hd : Describes session state)
    (howned : Owned state) (hclones : state.clones = 0) :
    (∃ evaluated, session.stage = .Open evaluated) ∨ session.stage = .Over := by
  refine Stage.of_outside fun thread => ?_
  by_contra hne
  have hhold := Frame.hold_of_role ((hd.role thread).trans_ne hne)
  have hpos := howned.shared thread ((howned.borrowed thread).mpr hhold)
  omega

theorem Describes.free {session : Session ι} {state : State ι} {thread : ι}
    (hd : Describes session state) (howned : Owned state) (hframe : state.frame thread = .DropFree) :
    Simulated session ({ state with freed := true }.goto thread .Idle) [.Freed thread] := by
  obtain ⟨hclones, hlive⟩ := howned.last thread (by rw [hframe]; rfl)
  have hstage := hd.unborrowed howned hclones
  obtain ⟨stage, freed⟩ := session
  obtain rfl : freed = false := hd.freed.symm.trans hlive
  refine .inr ⟨.Free thread, ⟨stage, true⟩, ?_, ?_⟩
  · rcases hstage with ⟨evaluated, rfl⟩ | rfl <;> rfl
  · refine ⟨hd.lifecycle, hd.lock, hd.core, rfl, fun other => ?_⟩
    rw [State.frame_goto]
    split
    · rename_i heq
      rw [heq, ← hd.role thread, hframe]
      rfl
    · exact hd.role other

theorem Describes.move {session : Session ι} {state after : State ι} {thread : ι}
    {seen : List (Event ι)} (hd : Describes session state) (howned : Owned state)
    (hm : Move thread state after seen) : Simulated session after seen := by
  obtain ⟨stage, freed⟩ := session
  have hrole : stage.role thread = (state.frame thread).role := (hd.role thread).symm
  cases hm with
  | Unsupported error hcall => exact .inl ⟨hd, rfl⟩
  | Entered hentry hcall =>
      refine .inl ⟨?_, by cases hentry <;> rfl⟩
      exact Describes.quiet hd rfl rfl rfl rfl rfl (by rw [hcall.1]; cases hentry <;> rfl)
  | Cloned _ => exact .inl ⟨⟨hd.lifecycle, hd.lock, hd.core, hd.freed, hd.role⟩, rfl⟩
  | Dropped _ _ => exact .inl ⟨⟨hd.lifecycle, hd.lock, hd.core, hd.freed, hd.role⟩, rfl⟩
  | LastDropped hcall hnone =>
      exact .inl ⟨Describes.quiet hd rfl rfl rfl rfl rfl (by rw [hcall.1]; rfl), rfl⟩
  | Refused message hwait hframe hlock hevaluate hconnect =>
      refine .inl ⟨Describes.outside hd rfl rfl rfl rfl rfl ?_, ?_⟩
      · rw [hframe]
        cases hwait <;> rfl
      · split <;> rfl
  | EvaluateAdmitted hframe hlock hl =>
      obtain ⟨evaluated, rfl, -⟩ := Stage.of_open (hd.lock ▸ hlock) (hd.lifecycle ▸ hl)
      have hlive := howned.live hframe (by simp [Frame.hold])
      refine hd.acts hlive (.Evaluate thread) rfl ?_
      exact Describes.advance hd hd.lifecycle rfl hd.core hlive rfl (if_pos rfl).symm
        fun other hne => if_neg hne
  | CredentialsAdmitted hframe hlock hl =>
      obtain ⟨evaluated, rfl, hevaluated⟩ :=
        Stage.of_open (hd.lock ▸ hlock) (.inr (hd.lifecycle ▸ hl))
      obtain rfl := hevaluated (hd.lifecycle ▸ hl)
      have hlive := howned.live hframe (by simp [Frame.hold])
      refine hd.acts hlive (.Supply thread) rfl ?_
      exact Describes.advance hd hd.lifecycle rfl hd.core hlive rfl (if_pos rfl).symm
        fun other hne => if_neg hne
  | ConnectAdmitted started hframe hlock hl =>
      obtain ⟨evaluated, rfl, hevaluated⟩ :=
        Stage.of_open (hd.lock ▸ hlock) (.inr (hd.lifecycle ▸ hl))
      obtain rfl := hevaluated (hd.lifecycle ▸ hl)
      have hlive := howned.live hframe (by simp [Frame.hold])
      refine hd.acts hlive (.Admit thread) rfl ?_
      exact Describes.advance hd rfl rfl hd.core hlive rfl (if_pos rfl).symm
        fun other hne => if_neg hne
  | StopReset started hframe =>
      obtain rfl := Stage.of_admits (hrole.trans (by rw [hframe]; rfl))
      have hlive := howned.live hframe (by simp [Frame.hold])
      refine hd.acts hlive .Release rfl ?_
      exact Describes.advance hd hd.lifecycle rfl hd.core hlive rfl (if_pos rfl).symm
        fun other hne => (if_neg hne).trans (if_neg hne).symm
  | NativeEntered started hframe =>
      obtain rfl := Stage.of_enters (hrole.trans (by rw [hframe]; rfl))
      have hlive := howned.live hframe (by simp [Frame.hold])
      refine hd.acts hlive .Enter rfl ?_
      exact Describes.advance hd hd.lifecycle hd.lock rfl hlive rfl (if_pos rfl).symm
        fun other hne => (if_neg hne).trans (if_neg hne).symm
  | SetupDone started hframe =>
      obtain rfl := Stage.of_runs (hrole.trans (by rw [hframe]; rfl))
      have hlive := howned.live hframe (by simp [Frame.hold])
      refine hd.acts hlive .Accept rfl ?_
      exact Describes.advance hd hd.lifecycle hd.lock rfl hlive rfl (if_pos rfl).symm
        fun other hne => (if_neg hne).trans (if_neg hne).symm
  | RunEntered started hframe =>
      refine .inl ⟨Describes.quiet hd rfl rfl rfl rfl rfl ?_, ?_⟩
      · rcases hframe with hf | hf <;> simp [hf, Frame.role]
      · cases state.connectStarted <;> rfl
  | ConnectLeft started outcome hframe hne =>
      obtain rfl := Stage.of_runs (hrole.trans (by rw [hframe]; rfl))
      have hlive := howned.live hframe (by simp [Frame.hold])
      refine hd.acts hlive .Leave (by cases state.connectStarted <;> rfl) ?_
      exact Describes.advance hd hd.lifecycle hd.lock hd.core hlive rfl (if_pos rfl).symm
        fun other hne => (if_neg hne).trans (if_neg hne).symm
  | ConnectUnwound started hframe =>
      obtain rfl := Stage.of_runs (hrole.trans (by rw [hframe]; rfl))
      have hlive := howned.live hframe (by simp [Frame.hold])
      refine hd.acts hlive .Leave rfl ?_
      exact Describes.advance hd hd.lifecycle hd.lock hd.core hlive rfl (if_pos rfl).symm
        fun other hne => (if_neg hne).trans (if_neg hne).symm
  | Finished started outcome hframe hlock =>
      obtain rfl := Stage.of_leaves (hrole.trans (by rw [hframe]; rfl))
      have hlive := howned.live hframe (by simp [Frame.hold])
      refine hd.acts hlive .Finish rfl ?_
      exact Describes.advance hd rfl hd.lock hd.core hlive rfl rfl fun other hne => (if_neg hne).symm
  | StopRepeated hframe hstop =>
      exact .inl ⟨Describes.outside hd rfl rfl rfl rfl rfl (by rw [hframe]; rfl), rfl⟩
  | StopFirst hframe hstop =>
      exact .inl ⟨Describes.quiet hd rfl rfl rfl rfl rfl (by rw [hframe]; rfl), rfl⟩
  | StopDelivered hframe =>
      exact .inl ⟨Describes.outside hd rfl rfl rfl rfl rfl (by rw [hframe]; rfl), rfl⟩
  | DropRepeated hframe hstop =>
      exact .inl ⟨Describes.quiet hd rfl rfl rfl rfl rfl (by rw [hframe]; rfl), rfl⟩
  | DropFirst hframe hstop =>
      exact .inl ⟨Describes.quiet hd rfl rfl rfl rfl rfl (by rw [hframe]; rfl), rfl⟩
  | DropDelivered hframe =>
      exact .inl ⟨Describes.quiet hd rfl rfl rfl rfl rfl (by rw [hframe]; rfl), rfl⟩
  | Freed hframe => exact hd.free howned hframe
  | Evaluated hframe =>
      obtain ⟨evaluated, rfl⟩ := Stage.of_evaluates (hrole.trans (by rw [hframe]; rfl))
      have hlive := howned.live hframe (by simp [Frame.hold])
      refine hd.acts hlive (.Evaluated true) rfl ?_
      unfold State.leave
      exact Describes.advance hd (by simp [Stage.lifecycle]) rfl hd.core hlive rfl rfl
        fun other hne => (if_neg hne).symm
  | EvaluateFailed outcome hframe hne =>
      obtain ⟨evaluated, rfl⟩ := Stage.of_evaluates (hrole.trans (by rw [hframe]; rfl))
      have hlive := howned.live hframe (by simp [Frame.hold])
      refine hd.acts hlive (.Evaluated false) rfl ?_
      unfold State.leave
      exact Describes.advance hd (by simpa [Stage.lifecycle] using hd.lifecycle) rfl hd.core hlive
        rfl rfl fun other hne => (if_neg hne).symm
  | CredentialsReturned outcome hframe =>
      obtain rfl := Stage.of_supplies (hrole.trans (by rw [hframe]; rfl))
      have hlive := howned.live hframe (by simp [Frame.hold])
      refine hd.acts hlive .Supplied rfl ?_
      unfold State.leave
      exact Describes.advance hd hd.lifecycle rfl hd.core hlive rfl rfl fun other hne => (if_neg hne).symm
  | SelfTestReturned outcome hframe =>
      exact .inl ⟨Describes.outside hd rfl rfl rfl rfl rfl (by rw [hframe]; rfl), rfl⟩
  | CoreReturned started outcome hframe =>
      obtain ⟨phase, hphase, hruns⟩ : ∃ phase, (phase = .Setup ∨ phase = .Accepting) ∧
          (state.frame thread).role = .Runs phase := by
        rcases hframe with hf | hf | hf <;> rw [hf]
        · exact ⟨.Setup, .inl rfl, rfl⟩
        · exact ⟨.Accepting, .inr rfl, rfl⟩
        · exact ⟨.Accepting, .inr rfl, rfl⟩
      have hborrow : (state.frame thread).hold = .Borrow := Frame.hold_of_role (by simp [hruns])
      have hlive : state.freed = false := by
        apply howned.live (rfl : state.frame thread = _)
        simp [hborrow]
      obtain rfl := Stage.of_runs (hrole.trans hruns)
      refine hd.acts hlive .Return (by rcases hphase with rfl | rfl <;> rfl) ?_
      exact Describes.advance hd hd.lifecycle hd.lock rfl hlive rfl (if_pos rfl).symm
        fun other hne => (if_neg hne).trans (if_neg hne).symm

theorem Describes.rank {session : Session ι} {state after : State ι} {thread : ι}
    {seen : List (Event ι)} (hd : Describes session state) (howned : Owned state)
    (hm : Move thread state after seen) : state.lifecycle.rank ≤ after.lifecycle.rank := by
  rcases hd.move howned hm with ⟨hafter, _⟩ | ⟨act, next, hact, hnext⟩
  · rw [hd.lifecycle, hafter.lifecycle]
  · rw [hd.lifecycle, hnext.lifecycle]
    exact Session.step_rank hact

-- The client refines the session, and clones are accounted for all along.
theorem client_refines (capabilities : Capabilities) :
    Refines (machine capabilities : Machine (State ι) (Label ι) (Event ι)) sessionMachine
      (fun state session => Owned state ∧ Describes session state) view := by
  rintro before session label after seen ⟨howned, hd⟩ hs
  have hm := step_move hs
  have howned' := howned.move hm
  rcases hd.move howned hm with ⟨hafter, hquiet⟩ | ⟨act, next, hact, hnext⟩
  · exact .inl ⟨⟨howned', hafter⟩, hquiet⟩
  · exact .inr ⟨act, next, hact, howned', hnext⟩

-- A client that is ready stays so until a connect is admitted.
theorem Describes.ready {session : Session ι} {state after : State ι} {thread : ι}
    {seen : List (Event ι)} (hd : Describes session state) (hm : Move thread state after seen)
    (hready : state.lifecycle = .Ready) :
    after.lifecycle = .Ready ∨
      ∃ started, state.frame thread = .PrepareLock started ∧ after.frame thread = .PrepareReset started := by
  cases hm with
  | ConnectAdmitted started hframe _ _ => exact .inr ⟨started, hframe, State.frame_goto_self _ _ _⟩
  | Finished started outcome hframe _ =>
      have hstage := Stage.of_leaves ((hd.role thread).symm.trans (by rw [hframe]; rfl))
      rw [hd.lifecycle, hstage] at hready
      cases hready
  | Evaluated _ => exact .inl rfl
  | _ => exact .inl hready

-- The entries of the native calls that a finished client refuses.
def Event.enters : Event ι → Bool
  | .EvaluateEnter _ | .CredentialsEnter _ | .ConnectEnter _ => true
  | _ => false

theorem Describes.enters {session : Session ι} {state after : State ι} {thread : ι}
    {seen : List (Event ι)} {event : Event ι} (hd : Describes session state)
    (hm : Move thread state after seen) (hmem : event ∈ seen) (henters : event.enters = true) :
    state.lifecycle ≠ .Finished := by
  cases hm with
  | Entered hentry _ => cases hentry <;> simp at hmem <;> grind [Event.enters]
  | Refused _ _ _ _ _ _ => split at hmem <;> simp at hmem <;> grind [Event.enters]
  | EvaluateAdmitted _ _ hl => rcases hl with hl | hl <;> simp [hl]
  | CredentialsAdmitted _ _ hl => simp [hl]
  | NativeEntered started hframe =>
      have hstage := Stage.of_enters ((hd.role thread).symm.trans (by rw [hframe]; rfl))
      simp [hd.lifecycle, hstage, Stage.lifecycle]
  | RunEntered _ _ | ConnectLeft _ _ _ _ => grind [Event.enters]
  | _ => simp at hmem <;> grind [Event.enters]

-- The thread that leaves the session finishes it with its next step.
theorem Move.finishes {state after : State ι} {thread : ι} {seen : List (Event ι)}
    (hm : Move thread state after seen) (hrole : (state.frame thread).role = .Leaves) :
    after.lifecycle = .Finished := by
  have hbusy : state.frame thread ≠ .Idle := by
    intro hidle
    simp [hidle, Frame.role] at hrole
  cases hm with
  | Finished _ _ _ _ => rfl
  | Unsupported _ hcall | Entered _ hcall | Cloned hcall | Dropped hcall _ | LastDropped hcall _ =>
      exact absurd hcall.1 hbusy
  | Refused _ hwait hframe _ _ _ =>
      rw [hframe] at hrole
      cases hwait <;> cases hrole
  | RunEntered _ hframe => rcases hframe with hf | hf <;> simp [hf, Frame.role] at hrole
  | CoreReturned _ _ hframe => rcases hframe with hf | hf | hf <;> simp [hf, Frame.role] at hrole
  | _ => simp_all [Frame.role]

theorem Lifecycle.eq_finished {lifecycle : Lifecycle} (hrank : Lifecycle.Finished.rank ≤ lifecycle.rank) :
    lifecycle = .Finished := by
  cases lifecycle <;> simp [Lifecycle.rank] at hrank ⊢

theorem Lifecycle.ne_new {before after : Lifecycle} (hrank : before.rank ≤ after.rank)
    (hbefore : before ≠ .New) : after ≠ .New := by
  rintro rfl
  cases before <;> simp [Lifecycle.rank] at hrank hbefore

-- Only a thread that runs the session takes or gives the started callback.
theorem Move.connectStarted {state after : State ι} {thread : ι} {seen : List (Event ι)}
    (hm : Move thread state after seen) (hrole : (state.frame thread).role = .Outside) :
    after.connectStarted = state.connectStarted := by
  cases hm with
  | NativeEntered _ hframe => simp [hframe, Frame.role] at hrole
  | RunEntered _ hframe => rcases hframe with hf | hf <;> simp [hf, Frame.role] at hrole
  | ConnectLeft _ _ hframe _ => simp [hframe, Frame.role] at hrole
  | _ => rfl

-- A step calls the started callback that Core has, or that of a connect that it refuses.
theorem Move.started {state after : State ι} {thread other : ι} {seen : List (Event ι)}
    (hm : Move thread state after seen) (hmem : .Started other ∈ seen) :
    other = thread ∨ state.connectStarted = some other ∧
      ∃ phase, (state.frame thread).role = .Runs phase := by
  cases hm with
  | Entered hentry _ => cases hentry <;> simp at hmem
  | Refused _ _ _ _ _ _ =>
      split at hmem
      · exact .inl (by simpa using hmem)
      · simp at hmem
  | RunEntered started hframe =>
      refine .inr ⟨by simpa using hmem, .Accepting, ?_⟩
      rcases hframe with hf | hf <;> rw [hf] <;> rfl
  | ConnectLeft started outcome hframe _ =>
      exact .inr ⟨by simpa using hmem, .Returned, by rw [hframe]; rfl⟩
  | _ => simp at hmem

end Refinement

end OpenvpnConnect.Client
