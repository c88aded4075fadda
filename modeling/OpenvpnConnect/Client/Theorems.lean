import OpenvpnConnect.Client.Refinement

namespace OpenvpnConnect.Client

open Transition

section Serial

variable {ι : Type}

@[simp] theorem view_eq_some (event visible : Event ι) :
    view event = some visible ↔ event = visible ∧ visible.native = true := by
  unfold view
  by_cases hnative : event.native = true
  · rw [if_pos hnative, Option.some.injEq]
    constructor
    · rintro rfl
      exact ⟨rfl, hnative⟩
    · exact fun h => h.1
  · rw [if_neg hnative]
    constructor
    · intro h
      cases h
    · rintro ⟨rfl, hvisible⟩
      exact absurd hvisible hnative

theorem configuring_filterMap_view (trace : List (Event ι)) :
    configuring (trace.filterMap view) = configuring trace := by
  induction trace using List.reverseRecOn with
  | nil => rfl
  | append_singleton front event ih =>
      rw [List.filterMap_append, configuring_concat]
      cases event <;>
        simp [view, Event.native, configuring_concat, ih]

theorem unentered_filterMap_view (trace : List (Event ι)) :
    Unentered (trace.filterMap view) ↔ Unentered trace := by
  simp [Unentered, Event.native]

-- The native calls alone tell whether a trace is serial.
theorem Serial.of_view {front : List (Event ι)} {event : Event ι}
    (hs : event.native = true → Serial (front.filterMap view) event) : Serial front event := by
  cases event <;>
    simp_all [Serial, Event.native, configuring_filterMap_view, unentered_filterMap_view]

variable [DecidableEq ι] {capabilities : Capabilities}

theorem owned_describes_new : Owned (State.new : State ι) ∧ Describes Session.new (State.new : State ι) :=
  ⟨owned_new, describes_new⟩

theorem run_owned {guard : List (Event ι) → State ι → Label ι → Prop} {trace : List (Event ι)}
    {last : State ι} (hrun : Run (machine capabilities) guard State.new trace last) : Owned last := by
  obtain ⟨_, _, howned, _⟩ := (client_refines capabilities).reaches owned_describes_new hrun
  exact howned

theorem run_describes {guard : List (Event ι) → State ι → Label ι → Prop} {trace : List (Event ι)}
    {last : State ι} (hrun : Run (machine capabilities) guard State.new trace last) :
    ∃ session, Describes session last := by
  obtain ⟨session, _, _, hd⟩ := (client_refines capabilities).reaches owned_describes_new hrun
  exact ⟨session, hd⟩

-- Once the client is finished every native connect has returned.
theorem run_finished {guard : List (Event ι) → State ι → Label ι → Prop} {trace : List (Event ι)}
    {last : State ι} (hrun : Run (machine capabilities) guard State.new trace last)
    (hfinished : last.lifecycle = .Finished) (thread : ι) (hmem : .ConnectEnter thread ∈ trace) :
    .ConnectExit thread ∈ trace := by
  obtain ⟨session, hsession, _, hd⟩ := (client_refines capabilities).reaches owned_describes_new hrun
  have htracks := (session_tracks hsession).2
  have hstage := hd.lifecycle.symm.trans hfinished
  cases hst : session.stage with
  | Over =>
      simp only [hst, Stage.Tracks, List.mem_filterMap, view_eq_some] at htracks
      have hexit := htracks.2 thread ⟨.ConnectEnter thread, hmem, rfl, rfl⟩
      obtain ⟨_, hmem, rfl, _⟩ := hexit
      exact hmem
  | Open evaluated => cases evaluated <;> simp [hst, Stage.lifecycle] at hstage
  | Evaluating evaluated _ => cases evaluated <;> simp [hst, Stage.lifecycle] at hstage
  | _ => simp [hst, Stage.lifecycle] at hstage

theorem reaches_serial {trace : List (Event ι)} {last : State ι}
    (hrun : Reaches (machine capabilities) State.new trace last) : Always Serial trace := by
  obtain ⟨session, hsession, _⟩ := (client_refines capabilities).reaches owned_describes_new hrun
  refine Always.imp ?_ (session_tracks hsession).1.of_filterMap
  intro front event hs
  exact Serial.of_view fun hnative => hs event (if_pos hnative)

theorem reaches_rank {trace more : List (Event ι)} {last final : State ι}
    (hrun : Reaches (machine capabilities) State.new trace last)
    (hmore : Reaches (machine capabilities) last more final) :
    last.lifecycle.rank ≤ final.lifecycle.rank := by
  obtain ⟨middle, _, hrel⟩ := (client_refines capabilities).reaches owned_describes_new hrun
  obtain ⟨session, hsession, hfinal⟩ := (client_refines capabilities).reaches hrel hmore
  rw [hrel.2.lifecycle, hfinal.2.lifecycle]
  exact session_rank hsession

end Serial

section Settled

variable {ι : Type} [DecidableEq ι] {capabilities : Capabilities}

def wrote (thread : ι) (written : List Lifecycle) : Event ι → List Lifecycle
  | .Called caller _ => if caller = thread then [] else written
  | .LifecycleSet writer value => if writer = thread then written ++ [value] else written
  | _ => written

-- What a thread has written to the lifecycle since it was last called.
def writes (thread : ι) (trace : List (Event ι)) : List Lifecycle :=
  trace.foldl (wrote thread) []

def written (current : Lifecycle) : Event ι → Lifecycle
  | .LifecycleSet _ value => value
  | _ => current

def lifecycleOf (trace : List (Event ι)) : Lifecycle := trace.foldl written .New

-- A connect that was admitted has gone through Connecting to Finished, a
-- refused one and every failed call have left the lifecycle as it was.
def Settled (front : List (Event ι)) : Event ι → Prop
  | .Returned thread call outcome =>
      if call = .Connect ∨ call = .ConnectWithStarted then
        writes thread front = [.Connecting, .Finished] ∨
          writes thread front = [] ∧ ∃ error, outcome = .Err error
      else outcome ≠ .Ok → writes thread front = []
  | _ => True

theorem writes_append (thread : ι) (front back : List (Event ι)) :
    writes thread (front ++ back) = back.foldl (wrote thread) (writes thread front) :=
  List.foldl_append

omit [DecidableEq ι] in
theorem lifecycleOf_append (front back : List (Event ι)) :
    lifecycleOf (front ++ back) = back.foldl written (lifecycleOf front) :=
  List.foldl_append

-- What a thread in a call has written when it is at a frame.
def Frame.writes (frame : Frame) : List Lifecycle :=
  match frame.role with
  | .Admits | .Enters | .Runs _ | .Leaves => [.Connecting]
  | _ => []

-- A step writes and calls for its own thread only.
theorem Move.writes_ne {state after : State ι} {thread other : ι} {seen front : List (Event ι)}
    (hm : Move thread state after seen) (hne : other ≠ thread) :
    Client.writes other (front ++ seen) = Client.writes other front := by
  rw [writes_append]
  cases hm with
  | Entered hentry _ => cases hentry <;> simp [wrote, hne.symm]
  | Refused message _ _ _ _ _ => split <;> simp [wrote]
  | RunEntered _ _ | ConnectLeft _ _ _ _ => cases state.connectStarted <;> simp [wrote]
  | _ => simp [wrote, hne.symm]

theorem connectCall_connects (started : Bool) :
    connectCall started = .Connect ∨ connectCall started = .ConnectWithStarted := by
  cases started <;> simp [connectCall]

theorem Waiting.writes {call : Call} {frame : Frame} (hwait : Waiting call frame) :
    frame.writes = [] := by
  cases hwait <;> rfl

theorem Move.settles {state after : State ι} {thread : ι} {seen front : List (Event ι)}
    (hm : Move thread state after seen)
    (hbefore : (state.frame thread).hold = .Borrow →
      Client.writes thread front = (state.frame thread).writes) :
    AlwaysFrom Settled front seen ∧ ((after.frame thread).hold = .Borrow →
      Client.writes thread (front ++ seen) = (after.frame thread).writes) := by
  cases hm with
  | Unsupported error hcall => simp [Settled, writes_append, wrote, hcall.1, Frame.hold]
  | Entered hentry hcall =>
      cases hentry <;> simp [Settled, writes_append, wrote, State.enter, Frame.writes, Frame.role]
  | Cloned hcall => simp [hcall.1, Frame.hold]
  | Dropped hcall _ => simp [hcall.1, Frame.hold]
  | LastDropped hcall hnone => simp [Frame.hold]
  | Refused message hwait hframe hlock hevaluate hconnect =>
      have hb := hbefore (hframe ▸ hwait.hold)
      rw [hframe, hwait.writes] at hb
      split <;>
        simp [Settled, writes_append, wrote, State.leave, Frame.hold, hb]
  | RunEntered started hframe =>
      cases state.connectStarted <;> rcases hframe with hf | hf <;>
        simp_all [Settled, writes_append, wrote, Frame.writes, Frame.role, Frame.hold]
  | ConnectLeft started outcome hframe hne =>
      cases state.connectStarted <;>
        simp_all [Settled, writes_append, wrote, Frame.writes, Frame.role, Frame.hold]
  | CoreReturned started outcome hframe =>
      rcases hframe with hf | hf | hf <;>
        simp_all [Settled, writes_append, wrote, Frame.writes, Frame.role, Frame.hold]
  | _ =>
      simp_all [Settled, writes_append, wrote, State.leave, Frame.writes, Frame.role, Frame.hold,
        connectCall_connects]

-- A run accounts for every write to the lifecycle.
structure Accounted (trace : List (Event ι)) (state : State ι) : Prop where
  settled : Always Settled trace
  writes : ∀ thread, (state.frame thread).hold = .Borrow →
    writes thread trace = (state.frame thread).writes
  lifecycle : state.lifecycle = lifecycleOf trace

theorem Move.lifecycle {state after : State ι} {thread : ι} {seen front : List (Event ι)}
    (hm : Move thread state after seen) (hbefore : state.lifecycle = lifecycleOf front) :
    after.lifecycle = lifecycleOf (front ++ seen) := by
  rw [lifecycleOf_append, ← hbefore]
  cases hm with
  | Entered hentry _ => cases hentry <;> rfl
  | Refused message _ _ _ _ _ => split <;> rfl
  | RunEntered _ _ | ConnectLeft _ _ _ _ => cases state.connectStarted <;> rfl
  | _ => rfl

theorem run_accounted {guard : List (Event ι) → State ι → Label ι → Prop} {trace : List (Event ι)}
    {last : State ι} (hrun : Run (machine capabilities) guard State.new trace last) :
    Accounted trace last := by
  refine hrun.invariant Accounted ⟨always_nil _, ?_, rfl⟩ ?_
  · intro thread hhold
    cases hhold
  · intro trace before label after seen hacc _ hs
    have hm := step_move hs
    have hown := hm.settles (hacc.writes label.thread)
    refine ⟨hacc.settled.append hown.1, ?_, hm.lifecycle hacc.lifecycle⟩
    intro thread hhold
    by_cases heq : thread = label.thread
    · rw [heq] at hhold ⊢
      exact hown.2 hhold
    · rw [hm.frame_ne heq] at hhold ⊢
      rw [hm.writes_ne heq]
      exact hacc.writes thread hhold

-- One session per client, over every run.
theorem one_session {trace : List (Event ι)} {last : State ι}
    (hrun : Reaches (machine capabilities) State.new trace last) :
    Always Serial trace ∧ Always Settled trace ∧ last.lifecycle = lifecycleOf trace ∧
      ∀ more final, Reaches (machine capabilities) last more final →
        last.lifecycle.rank ≤ final.lifecycle.rank := by
  have hacc := run_accounted hrun
  exact ⟨reaches_serial hrun, hacc.settled, hacc.lifecycle, fun _ _ hmore => reaches_rank hrun hmore⟩

end Settled

-- Everything this library can be built with.
def capable : Capabilities := ⟨true, true, true⟩

def plain : Config := ⟨false, "", false⟩

-- One session from the evaluation to the drop of the last clone, with calls
-- of another thread that are refused on the way.
def wholeLife : List (Label (Fin 2)) :=
  [.Clone 0, .Evaluate 0 plain, .Step 0, .NativeReturn 0 .Ok, .ProvideCredentials 1, .Step 1,
    .NativeReturn 1 .Ok, .Connect 0 true, .Step 0, .Evaluate 1 plain, .Step 0, .Step 1, .Step 0,
    .Step 0, .Step 0, .NativeReturn 0 .Unwound, .Connect 1 false, .Step 1, .Step 0, .Step 0,
    .Drop 0, .Drop 0, .Step 0, .Step 0, .Step 0]

theorem one_session_whole : ∃ trace last,
    Reaches (machine capable) (State.new : State (Fin 2)) trace last ∧
    (.ConnectExit 0 ∈ trace ∧ .Freed 0 ∈ trace) ∧ Always Serial trace ∧ Always Settled trace ∧
    last.lifecycle = lifecycleOf trace ∧
    ∀ more final, Reaches (machine capable) last more final → last.lifecycle.rank ≤ final.lifecycle.rank := by
  obtain ⟨trace, last, hrun, hmem⟩ : ∃ trace last,
      Run (machine capable) Unguarded (State.new : State (Fin 2)) trace last ∧
      .ConnectExit 0 ∈ trace ∧ .Freed 0 ∈ trace := exists_run wholeLife (by decide)
  exact ⟨trace, last, hrun, hmem, one_session hrun⟩

end OpenvpnConnect.Client
