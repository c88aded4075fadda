import OpenvpnConnect.Client.Basic
import OpenvpnConnect.Transition.Trace

namespace OpenvpnConnect.Client

open Transition

-- What a client is for: configuration calls one after another until one
-- connect is admitted, then that one session, then nothing.
inductive Stage (ι : Type)
  | Open (evaluated : Bool)
  | Evaluating (evaluated : Bool) (thread : ι)
  | Supplying (thread : ι)
  | Admitted (thread : ι)
  | Entering (thread : ι)
  | Running (thread : ι) (phase : CorePhase)
  | Leaving (thread : ι)
  | Over
deriving DecidableEq, Repr

structure Session (ι : Type) where
  stage : Stage ι
  freed : Bool
deriving DecidableEq, Repr

inductive Act (ι : Type)
  | Evaluate (thread : ι)
  | Evaluated (ok : Bool)
  | Supply (thread : ι)
  | Supplied
  | Admit (thread : ι)
  | Release
  | Enter
  | Accept
  | Return
  | Leave
  | Finish
  | Free (thread : ι)
deriving DecidableEq, Repr

def Stage.lifecycle {ι : Type} : Stage ι → Lifecycle
  | .Open evaluated | .Evaluating evaluated _ => if evaluated then .Ready else .New
  | .Supplying _ => .Ready
  | .Admitted _ | .Entering _ | .Running _ _ | .Leaving _ => .Connecting
  | .Over => .Finished

def Stage.lock {ι : Type} : Stage ι → Option ι
  | .Evaluating _ thread | .Supplying thread | .Admitted thread => some thread
  | _ => none

def Stage.core {ι : Type} : Stage ι → CorePhase
  | .Running _ phase => phase
  | .Leaving _ | .Over => .Returned
  | _ => .Unconnected

-- The part that a thread plays in the stage.
inductive Role
  | Outside
  | Evaluates
  | Supplies
  | Admits
  | Enters
  | Runs (phase : CorePhase)
  | Leaves
deriving DecidableEq, Repr

section Session

variable {ι : Type}

def Stage.role [DecidableEq ι] (stage : Stage ι) (thread : ι) : Role :=
  match stage with
  | .Open _ | .Over => .Outside
  | .Evaluating _ holder => if thread = holder then .Evaluates else .Outside
  | .Supplying holder => if thread = holder then .Supplies else .Outside
  | .Admitted holder => if thread = holder then .Admits else .Outside
  | .Entering holder => if thread = holder then .Enters else .Outside
  | .Running holder phase => if thread = holder then .Runs phase else .Outside
  | .Leaving holder => if thread = holder then .Leaves else .Outside

def Session.new : Session ι := ⟨.Open false, false⟩

-- What an act makes of a stage, and what is observed of it.
def Stage.step : Stage ι → Act ι → Option (Stage ι × List (Event ι))
  | .Open evaluated, .Evaluate thread => some (.Evaluating evaluated thread, [.EvaluateEnter thread])
  | .Evaluating evaluated thread, .Evaluated ok =>
      some (.Open (evaluated || ok), [.EvaluateExit thread ok])
  | .Open true, .Supply thread => some (.Supplying thread, [.CredentialsEnter thread])
  | .Supplying thread, .Supplied => some (.Open true, [.CredentialsExit thread])
  | .Open true, .Admit thread => some (.Admitted thread, [])
  | .Admitted thread, .Release => some (.Entering thread, [])
  | .Entering thread, .Enter => some (.Running thread .Setup, [.ConnectEnter thread])
  | .Running thread .Setup, .Accept => some (.Running thread .Accepting, [])
  | .Running thread .Setup, .Return => some (.Running thread .Returned, [])
  | .Running thread .Accepting, .Return => some (.Running thread .Returned, [])
  | .Running thread .Returned, .Leave => some (.Leaving thread, [.ConnectExit thread])
  | .Leaving _, .Finish => some (.Over, [])
  | _, _ => none

def Session.step (session : Session ι) (act : Act ι) : Option (Session ι × List (Event ι)) :=
  if session.freed then none
  else
    match session.stage, act with
    | .Open _, .Free thread | .Over, .Free thread =>
        some ({ session with freed := true }, [.Freed thread])
    | stage, act =>
        match stage.step act with
        | none => none
        | some (next, seen) => some (⟨next, false⟩, seen)

def sessionMachine : Machine (Session ι) (Act ι) (Event ι) where
  step := Session.step

-- The native calls that the session is about.
def Event.native : Event ι → Bool
  | .EvaluateEnter _ | .EvaluateExit _ _ | .CredentialsEnter _ | .CredentialsExit _ => true
  | .ConnectEnter _ | .ConnectExit _ | .Freed _ => true
  | _ => false

def view (event : Event ι) : Option (Event ι) := if event.native then some event else none

-- The thread inside a native configuration call, as the trace tells it.
def configuring : List (Event ι) → Option ι :=
  List.foldl (fun inside event =>
    match event with
    | .EvaluateEnter thread | .CredentialsEnter thread => some thread
    | .EvaluateExit _ _ | .CredentialsExit _ => none
    | _ => inside) none

def Unentered (trace : List (Event ι)) : Prop := ∀ thread, .ConnectEnter thread ∉ trace

-- Configuration calls come one at a time and before the connect, which is
-- entered once, after an evaluation; the client outlives it.
def Serial (front : List (Event ι)) : Event ι → Prop
  | .EvaluateEnter _ | .CredentialsEnter _ => configuring front = none ∧ Unentered front
  | .EvaluateExit thread _ | .CredentialsExit thread =>
      configuring front = some thread ∧ Unentered front
  | .ConnectEnter _ =>
      (∃ thread, .EvaluateExit thread true ∈ front) ∧ configuring front = none ∧ Unentered front
  | .ConnectExit thread => .ConnectEnter thread ∈ front
  | .Freed _ => configuring front = none ∧
      ∀ thread, .ConnectEnter thread ∈ front → .ConnectExit thread ∈ front
  | _ => True

theorem configuring_concat (front : List (Event ι)) (event : Event ι) :
    configuring (front ++ [event]) =
      match event with
      | .EvaluateEnter thread | .CredentialsEnter thread => some thread
      | .EvaluateExit _ _ | .CredentialsExit _ => none
      | _ => configuring front := by
  unfold configuring
  rw [List.foldl_concat]

-- What a trace tells of the stage it led to.
def Stage.Tracks (trace : List (Event ι)) : Stage ι → Prop
  | .Open evaluated => configuring trace = none ∧ Unentered trace ∧
      (evaluated = true → ∃ thread, .EvaluateExit thread true ∈ trace)
  | .Evaluating evaluated holder => configuring trace = some holder ∧ Unentered trace ∧
      (evaluated = true → ∃ thread, .EvaluateExit thread true ∈ trace)
  | .Supplying holder => configuring trace = some holder ∧ Unentered trace ∧
      ∃ thread, .EvaluateExit thread true ∈ trace
  | .Admitted _ | .Entering _ => configuring trace = none ∧ Unentered trace ∧
      ∃ thread, .EvaluateExit thread true ∈ trace
  | .Running holder _ => configuring trace = none ∧
      ∀ thread, .ConnectEnter thread ∈ trace ↔ thread = holder
  | .Leaving _ | .Over => configuring trace = none ∧
      ∀ thread, .ConnectEnter thread ∈ trace → .ConnectExit thread ∈ trace

theorem Stage.step_tracks {stage next : Stage ι} {act : Act ι} {seen trace : List (Event ι)}
    (hs : stage.step act = some (next, seen)) (ht : stage.Tracks trace) :
    AlwaysFrom Serial trace seen ∧ next.Tracks (trace ++ seen) := by
  unfold Stage.step at hs
  split at hs <;> cases hs
  case h_2 evaluated thread ok =>
      obtain ⟨hinside, hunentered, hevaluated⟩ := ht
      refine ⟨by simpa [Serial] using ⟨hinside, hunentered⟩, configuring_concat _ _, ?_, ?_⟩
      · simpa [Unentered] using hunentered
      · rintro hok
        rcases (Bool.or_eq_true _ _).mp hok with hbefore | rfl
        · obtain ⟨earlier, hmem⟩ := hevaluated hbefore
          exact ⟨earlier, List.mem_append_left _ hmem⟩
        · exact ⟨thread, by simp⟩
  all_goals simp_all [Stage.Tracks, Serial, configuring_concat, Unentered]

def Session.Tracks (session : Session ι) (trace : List (Event ι)) : Prop :=
  Always Serial trace ∧ session.stage.Tracks trace

theorem Session.step_tracks {session next : Session ι} {act : Act ι} {seen trace : List (Event ι)}
    (hs : session.step act = some (next, seen)) (ht : session.Tracks trace) :
    next.Tracks (trace ++ seen) := by
  obtain ⟨hserial, htracks⟩ := ht
  unfold Session.step at hs
  split at hs
  · cases hs
  split at hs
  · cases hs
    rename_i hopen
    simp only [hopen, Stage.Tracks, Unentered] at htracks
    refine ⟨hserial.append ?_, ?_⟩
    · simp only [alwaysFrom_cons, Serial, alwaysFrom_nil, and_true]
      exact ⟨htracks.1, fun thread hmem => absurd hmem (htracks.2.1 thread)⟩
    · simpa [hopen, Stage.Tracks, Unentered, configuring_concat] using htracks
  · cases hs
    rename_i hover
    simp only [hover, Stage.Tracks] at htracks
    refine ⟨hserial.append (by simpa [Serial] using htracks), ?_⟩
    simpa [hover, Stage.Tracks, configuring_concat] using htracks
  · split at hs
    · cases hs
    · rename_i hstep
      cases hs
      obtain ⟨hseen, hnext⟩ := Stage.step_tracks hstep htracks
      exact ⟨hserial.append hseen, hnext⟩

-- Every run of the session keeps its native calls serial.
theorem session_tracks {trace : List (Event ι)} {last : Session ι}
    (hrun : Reaches sessionMachine Session.new trace last) : last.Tracks trace := by
  refine hrun.invariant (fun trace (session : Session ι) => session.Tracks trace) ?_ ?_
  · exact ⟨always_nil _, by simp [Session.new, Stage.Tracks, configuring, Unentered]⟩
  · intro trace before act after seen htracks _ hs
    exact Session.step_tracks hs htracks

theorem Stage.step_rank {stage next : Stage ι} {act : Act ι} {seen : List (Event ι)}
    (hs : stage.step act = some (next, seen)) : stage.lifecycle.rank ≤ next.lifecycle.rank := by
  unfold Stage.step at hs
  split at hs <;> cases hs
  case h_2 evaluated thread ok => cases evaluated <;> cases ok <;> simp [Stage.lifecycle, Lifecycle.rank]
  all_goals simp [Stage.lifecycle, Lifecycle.rank]

theorem Session.step_rank {session next : Session ι} {act : Act ι} {seen : List (Event ι)}
    (hs : session.step act = some (next, seen)) :
    session.stage.lifecycle.rank ≤ next.stage.lifecycle.rank := by
  unfold Session.step at hs
  split at hs
  · cases hs
  split at hs
  · cases hs; exact Nat.le_refl _
  · cases hs; exact Nat.le_refl _
  · split at hs <;> cases hs
    exact Stage.step_rank ‹_›

-- No run of the session takes its lifecycle back.
theorem session_rank {trace : List (Event ι)} {first last : Session ι}
    (hrun : Reaches sessionMachine first trace last) :
    first.stage.lifecycle.rank ≤ last.stage.lifecycle.rank :=
  hrun.relation (fun before after : Session ι => before.stage.lifecycle.rank ≤ after.stage.lifecycle.rank)
    (fun _ => Nat.le_refl _) (fun _ _ _ => Nat.le_trans) fun _ _ _ _ hs => Session.step_rank hs

end Session

end OpenvpnConnect.Client
