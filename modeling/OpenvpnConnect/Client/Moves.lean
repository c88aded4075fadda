import OpenvpnConnect.Client.Basic

namespace OpenvpnConnect.Client

section Moves

variable {ι : Type} [DecidableEq ι]

theorem State.frame_goto (state : State ι) (thread other : ι) (frame : Frame) :
    (state.goto thread frame).frame other = if other = thread then frame else state.frame other := rfl

@[simp] theorem State.frame_goto_self (state : State ι) (thread : ι) (frame : Frame) :
    (state.goto thread frame).frame thread = frame := if_pos rfl

theorem State.frame_goto_ne (state : State ι) {thread other : ι} (frame : Frame)
    (hne : other ≠ thread) : (state.goto thread frame).frame other = state.frame other := if_neg hne

-- What a thread can enter by a call, and what the call is.
inductive Entry : Call → Frame → Prop
  | Evaluate : Entry .Evaluate .EvaluateLock
  | ProvideCredentials : Entry .ProvideCredentials .CredentialsLock
  | CallbackSelfTest : Entry .CallbackSelfTest .SelfTestNative
  | Connect (started : Bool) : Entry (connectCall started) (.PrepareLock started)
  | Stop : Entry .Stop .StopSwap

-- The call that waits for the lifecycle mutex at a frame.
inductive Waiting : Call → Frame → Prop
  | Evaluate : Waiting .Evaluate .EvaluateLock
  | ProvideCredentials : Waiting .ProvideCredentials .CredentialsLock
  | Connect (started : Bool) : Waiting (connectCall started) (.PrepareLock started)

-- Everything that a step can do. The thread, the frame it leaves and the
-- state it is allowed in are as in the step function, the branches are named.
inductive Move (thread : ι) (state : State ι) : State ι → List (Event ι) → Prop
  | Unsupported (error : Error) : state.callable thread →
      Move thread state state
        [.Called thread .Evaluate, .Returned thread .Evaluate (.Err error)]
  | Entered {call : Call} {frame : Frame} : Entry call frame → state.callable thread →
      Move thread state (state.enter thread frame)
        (.Called thread call :: if frame = .SelfTestNative then [.SelfTestEnter thread] else [])
  | Cloned : state.callable thread → Move thread state { state with clones := state.clones + 1 } []
  | Dropped : state.callable thread → 2 ≤ state.clones →
      Move thread state { state with clones := state.clones - 1 } []
  | LastDropped : state.callable thread → state.borrowers = ∅ →
      Move thread state ({ state with clones := 0 }.goto thread .DropSwap) []
  | Refused {call : Call} {frame : Frame} (message : String) :
      Waiting call frame → state.frame thread = frame → state.lock = none →
      (call = .Evaluate → state.lifecycle = .Connecting ∨ state.lifecycle = .Finished) →
      (call ≠ .Evaluate → state.lifecycle ≠ .Ready) →
      Move thread state (state.leave thread)
        ((if frame = .PrepareLock true then [.Started thread] else []) ++
          [.Returned thread call (.Err (.InvalidState message))])
  | EvaluateAdmitted : state.frame thread = .EvaluateLock → state.lock = none →
      (state.lifecycle = .New ∨ state.lifecycle = .Ready) →
      Move thread state ({ state with lock := some thread }.goto thread .EvaluateNative)
        [.EvaluateEnter thread]
  | CredentialsAdmitted : state.frame thread = .CredentialsLock → state.lock = none →
      state.lifecycle = .Ready →
      Move thread state ({ state with lock := some thread }.goto thread .CredentialsNative)
        [.CredentialsEnter thread]
  | ConnectAdmitted (started : Bool) : state.frame thread = .PrepareLock started →
      state.lock = none → state.lifecycle = .Ready →
      Move thread state
        ({ state with lifecycle := .Connecting, lock := some thread }.goto thread
          (.PrepareReset started)) [.LifecycleSet thread .Connecting]
  | StopReset (started : Bool) : state.frame thread = .PrepareReset started →
      Move thread state
        ({ state with stopRequested := false, lock := none }.goto thread (.ConnectNative started))
        [.StopCleared thread]
  | NativeEntered (started : Bool) : state.frame thread = .ConnectNative started →
      Move thread state
        ({ state with
            core := .Setup
            connectStarted := if started then some thread else none }.goto thread
          (.ConnectSetup started)) [.ConnectEnter thread]
  | SetupDone (started : Bool) : state.frame thread = .ConnectSetup started →
      Move thread state ({ state with core := .Accepting }.goto thread (.ConnectEnabled started)) []
  | RunEntered (started : Bool) :
      (state.frame thread = .ConnectEnabled started ∨ state.frame thread = .ConnectRun started) →
      Move thread state ({ state with connectStarted := none }.goto thread (.ConnectRun started))
        (state.connectStarted.toList.map .Started)
  | ConnectLeft (started : Bool) (outcome : Outcome) :
      state.frame thread = .CoreReturned started outcome → outcome ≠ .Unwound →
      Move thread state
        ({ state with connectStarted := none }.goto thread (.LifecycleReset started outcome))
        (state.connectStarted.toList.map .Started ++ [.ConnectExit thread])
  | ConnectUnwound (started : Bool) : state.frame thread = .CoreReturned started .Unwound →
      Move thread state (state.goto thread (.LifecycleReset started .Unwound)) [.ConnectExit thread]
  | Finished (started : Bool) (outcome : Outcome) :
      state.frame thread = .LifecycleReset started outcome → state.lock = none →
      Move thread state ({ state with lifecycle := .Finished }.leave thread)
        [.LifecycleSet thread .Finished, .Returned thread (connectCall started) outcome]
  | StopRepeated : state.frame thread = .StopSwap → state.stopRequested = true →
      Move thread state (state.leave thread)
        [.StopSwapped thread true, .Returned thread .Stop .Ok]
  | StopFirst : state.frame thread = .StopSwap → state.stopRequested = false →
      Move thread state ({ state with stopRequested := true }.goto thread .StopNative)
        [.StopSwapped thread false]
  | StopDelivered : state.frame thread = .StopNative →
      Move thread state (state.leave thread)
        [.NativeStop thread state.accepting, .Returned thread .Stop .Ok]
  | DropRepeated : state.frame thread = .DropSwap → state.stopRequested = true →
      Move thread state (state.goto thread .DropFree) [.StopSwapped thread true]
  | DropFirst : state.frame thread = .DropSwap → state.stopRequested = false →
      Move thread state ({ state with stopRequested := true }.goto thread .DropStop)
        [.StopSwapped thread false]
  | DropDelivered : state.frame thread = .DropStop →
      Move thread state (state.goto thread .DropFree) [.NativeStop thread state.accepting]
  | Freed : state.frame thread = .DropFree →
      Move thread state ({ state with freed := true }.goto thread .Idle) [.Freed thread]
  | Evaluated : state.frame thread = .EvaluateNative →
      Move thread state ({ state with lifecycle := .Ready, lock := none }.leave thread)
        [.EvaluateExit thread true, .LifecycleSet thread .Ready, .Returned thread .Evaluate .Ok]
  | EvaluateFailed (outcome : Outcome) : state.frame thread = .EvaluateNative → outcome ≠ .Ok →
      Move thread state ({ state with lock := none }.leave thread)
        [.EvaluateExit thread false, .Returned thread .Evaluate outcome]
  | CredentialsReturned (outcome : Outcome) : state.frame thread = .CredentialsNative →
      Move thread state ({ state with lock := none }.leave thread)
        [.CredentialsExit thread, .Returned thread .ProvideCredentials outcome]
  | SelfTestReturned (outcome : Outcome) : state.frame thread = .SelfTestNative →
      Move thread state (state.leave thread)
        [.SelfTestExit thread, .Returned thread .CallbackSelfTest outcome]
  | CoreReturned (started : Bool) (outcome : Outcome) :
      (state.frame thread = .ConnectSetup started ∨ state.frame thread = .ConnectEnabled started ∨
        state.frame thread = .ConnectRun started) →
      Move thread state ({ state with core := .Returned }.goto thread (.CoreReturned started outcome))
        [.CoreExit thread]

-- The refusals of the three calls differ in the lifecycle states only.
theorem evaluateLocked_move (state : State ι) (thread : ι)
    (hframe : state.frame thread = .EvaluateLock) (hlock : state.lock = none) :
    Move thread state (evaluateLocked state thread).1 (evaluateLocked state thread).2 := by
  unfold evaluateLocked
  split <;> rename_i hl
  · exact .Refused _ .Evaluate hframe hlock (fun _ => .inl hl) (by simp)
  · exact .Refused _ .Evaluate hframe hlock (fun _ => .inr hl) (by simp)
  · exact .EvaluateAdmitted hframe hlock (.inl hl)
  · exact .EvaluateAdmitted hframe hlock (.inr hl)

theorem provideCredentialsLocked_move (state : State ι) (thread : ι)
    (hframe : state.frame thread = .CredentialsLock) (hlock : state.lock = none) :
    Move thread state (provideCredentialsLocked state thread).1
      (provideCredentialsLocked state thread).2 := by
  unfold provideCredentialsLocked
  split <;> rename_i hl
  · exact .Refused _ .ProvideCredentials hframe hlock (by simp) (by simp [hl])
  · exact .Refused _ .ProvideCredentials hframe hlock (by simp) (by simp [hl])
  · exact .Refused _ .ProvideCredentials hframe hlock (by simp) (by simp [hl])
  · exact .CredentialsAdmitted hframe hlock hl

theorem connectRefusal_eq_none (lifecycle : Lifecycle) :
    connectRefusal lifecycle = none ↔ lifecycle = .Ready := by
  cases lifecycle <;> simp [connectRefusal]

theorem connectRefusal_eq_some {lifecycle : Lifecycle} {error : Error}
    (hr : connectRefusal lifecycle = some error) :
    lifecycle ≠ .Ready ∧ ∃ message, error = .InvalidState message := by
  cases lifecycle with
  | Ready => cases hr
  | _ =>
      obtain rfl := Option.some.inj hr
      exact ⟨by simp, _, rfl⟩

theorem prepareConnect_move (state : State ι) (thread : ι) (started : Bool)
    (hframe : state.frame thread = .PrepareLock started) (hlock : state.lock = none) :
    Move thread state (prepareConnect state thread started).1
      (prepareConnect state thread started).2 := by
  unfold prepareConnect
  split <;> rename_i hr
  · obtain ⟨hne, message, rfl⟩ := connectRefusal_eq_some hr
    have hm : Move thread state _ _ := .Refused message (.Connect started) hframe hlock
      (by cases started <;> simp [connectCall]) (fun _ => hne)
    simpa using hm
  · exact .ConnectAdmitted started hframe hlock ((connectRefusal_eq_none _).mp hr)

theorem stopSwap_move (state : State ι) (thread : ι) (hframe : state.frame thread = .StopSwap) :
    Move thread state (stopSwap state thread).1 (stopSwap state thread).2 := by
  unfold stopSwap
  split <;> rename_i hstop
  · exact .StopRepeated hframe hstop
  · exact .StopFirst hframe (Bool.not_eq_true _ ▸ hstop)

theorem dropSwap_move (state : State ι) (thread : ι) (hframe : state.frame thread = .DropSwap) :
    Move thread state (dropSwap state thread).1 (dropSwap state thread).2 := by
  unfold dropSwap
  split <;> rename_i hstop
  · exact .DropRepeated hframe hstop
  · exact .DropFirst hframe (Bool.not_eq_true _ ▸ hstop)

theorem Move.of_some {thread : ι} {state after : State ι} {seen : List (Event ι)}
    {result : State ι × List (Event ι)} (hm : Move thread state result.1 result.2)
    (hs : some result = some (after, seen)) : Move thread state after seen := by
  obtain rfl := Option.some.inj hs
  exact hm

omit [DecidableEq ι] in
theorem notifyConnectStarted_eq (state : State ι) :
    notifyConnectStarted state =
      ({ state with connectStarted := none }, state.connectStarted.toList.map .Started) := by
  unfold notifyConnectStarted
  cases hc : state.connectStarted with
  | none => simp [← hc]
  | some thread => rfl

theorem stepFrame_move {state after : State ι} {thread : ι} {seen : List (Event ι)}
    (hs : stepFrame state thread = some (after, seen)) : Move thread state after seen := by
  unfold stepFrame at hs
  split at hs
  case h_1 hframe =>
      split at hs
      · exact (evaluateLocked_move state thread hframe ‹_›).of_some hs
      · cases hs
  case h_2 hframe =>
      split at hs
      · exact (provideCredentialsLocked_move state thread hframe ‹_›).of_some hs
      · cases hs
  case h_3 started hframe =>
      split at hs
      · exact (prepareConnect_move state thread started hframe ‹_›).of_some hs
      · cases hs
  case h_4 started hframe => cases hs; exact .StopReset started hframe
  case h_5 started hframe => cases hs; exact .NativeEntered started hframe
  case h_6 started hframe => cases hs; exact .SetupDone started hframe
  case h_7 started hframe =>
      simp only [notifyConnectStarted_eq] at hs
      cases hs
      exact .RunEntered started (.inl hframe)
  case h_8 started hframe =>
      simp only [notifyConnectStarted_eq] at hs
      cases hs
      exact .RunEntered started (.inr hframe)
  case h_9 started outcome hframe =>
      by_cases ho : outcome = .Unwound
      · subst ho
        cases hs
        exact .ConnectUnwound started hframe
      · simp only [ho, if_false, notifyConnectStarted_eq] at hs
        cases hs
        exact .ConnectLeft started outcome hframe ho
  case h_10 started outcome hframe =>
      split at hs <;> cases hs
      exact .Finished started outcome hframe ‹_›
  case h_11 hframe => exact (stopSwap_move state thread hframe).of_some hs
  case h_12 hframe => cases hs; exact .StopDelivered hframe
  case h_13 hframe => exact (dropSwap_move state thread hframe).of_some hs
  case h_14 hframe => cases hs; exact .DropDelivered hframe
  case h_15 hframe => cases hs; exact .Freed hframe
  all_goals cases hs

-- Only a native return takes a thread to the end of Core's connect.
theorem stepFrame_not_returned {state after : State ι} {thread : ι} {seen : List (Event ι)}
    (started : Bool) (outcome : Outcome) (hs : stepFrame state thread = some (after, seen)) :
    after.frame thread ≠ .CoreReturned started outcome := by
  unfold stepFrame at hs
  split at hs
  case h_1 =>
      split at hs
      · unfold evaluateLocked at hs
        split at hs <;> cases hs <;> simp [State.leave]
      · cases hs
  case h_2 =>
      split at hs
      · unfold provideCredentialsLocked at hs
        split at hs <;> cases hs <;> simp [State.leave]
      · cases hs
  case h_3 =>
      split at hs
      · unfold prepareConnect at hs
        split at hs <;> cases hs <;> simp [State.leave]
      · cases hs
  case h_11 =>
      unfold stopSwap at hs
      split at hs <;> cases hs <;> simp [State.leave]
  case h_13 =>
      unfold dropSwap at hs
      split at hs <;> cases hs <;> simp
  case h_10 => split at hs <;> cases hs; simp [State.leave]
  all_goals cases hs
  all_goals simp [State.leave]

theorem nativeReturn_move {state after : State ι} {thread : ι} {outcome : Outcome}
    {seen : List (Event ι)} (hs : nativeReturn state thread outcome = some (after, seen)) :
    Move thread state after seen := by
  unfold nativeReturn at hs
  split at hs
  case h_1 hframe =>
      split at hs <;> cases hs
      · exact .Evaluated hframe
      · exact .EvaluateFailed outcome hframe ‹_›
  case h_2 hframe => cases hs; exact .CredentialsReturned outcome hframe
  case h_3 hframe => cases hs; exact .SelfTestReturned outcome hframe
  case h_4 started hframe => cases hs; exact .CoreReturned started outcome (.inl hframe)
  case h_5 started hframe => cases hs; exact .CoreReturned started outcome (.inr (.inl hframe))
  case h_6 started hframe => cases hs; exact .CoreReturned started outcome (.inr (.inr hframe))
  all_goals cases hs

-- The thread that a label moves.
def Label.thread : Label ι → ι
  | .Evaluate thread _ | .ProvideCredentials thread | .CallbackSelfTest thread => thread
  | .Connect thread _ | .Stop thread | .Clone thread | .Drop thread => thread
  | .Step thread | .NativeReturn thread _ => thread

theorem step_move {capabilities : Capabilities} {state after : State ι} {label : Label ι}
    {seen : List (Event ι)} (hs : step capabilities state label = some (after, seen)) :
    Move label.thread state after seen := by
  cases label with
  | Evaluate thread config =>
      simp only [step, evaluate] at hs
      split at hs
      · rename_i hcall
        split at hs <;> cases hs
        · exact .Unsupported _ hcall
        · exact .Entered .Evaluate hcall
      · cases hs
  | ProvideCredentials thread =>
      simp only [step] at hs
      split at hs <;> cases hs
      exact .Entered .ProvideCredentials ‹_›
  | CallbackSelfTest thread =>
      simp only [step] at hs
      split at hs <;> cases hs
      exact .Entered .CallbackSelfTest ‹_›
  | Connect thread started =>
      simp only [step] at hs
      split at hs <;> cases hs
      exact .Entered (.Connect started) ‹_›
  | Stop thread =>
      simp only [step] at hs
      split at hs <;> cases hs
      exact .Entered .Stop ‹_›
  | Clone thread =>
      simp only [step] at hs
      split at hs <;> cases hs
      exact .Cloned ‹_›
  | Drop thread =>
      simp only [step] at hs
      split at hs
      · rename_i hcall
        split at hs <;> cases hs
        · exact .Dropped hcall.1 ‹_›
        · exact .LastDropped hcall.1 (hcall.2.resolve_left ‹_›)
      · cases hs
  | Step thread => exact stepFrame_move hs
  | NativeReturn thread outcome => exact nativeReturn_move hs

theorem Move.frame_ne {state after : State ι} {thread other : ι} {seen : List (Event ι)}
    (hm : Move thread state after seen) (hne : other ≠ thread) :
    after.frame other = state.frame other := by
  cases hm <;> first | rfl | exact State.frame_goto_ne _ _ hne

-- A call returns to its own thread, and at the end of a step.
theorem Move.returned {state after : State ι} {thread other : ι} {seen : List (Event ι)} {call : Call}
    {outcome : Outcome} (hm : Move thread state after seen)
    (hmem : .Returned other call outcome ∈ seen) : other = thread := by
  cases hm with
  | Entered hentry _ => cases hentry <;> simp at hmem
  | Refused message _ _ _ _ _ => split at hmem <;> simp at hmem <;> exact hmem.1
  | _ => simp_all

-- A configuration call that comes to a finished client is refused.
theorem Move.refused {state after : State ι} {thread : ι} {seen : List (Event ι)}
    (hm : Move thread state after seen) (hfinished : state.lifecycle = .Finished)
    (hframe : state.frame thread = .EvaluateLock ∨ state.frame thread = .CredentialsLock) :
    ∃ call message, seen = [.Returned thread call (.Err (.InvalidState message))] := by
  have hbusy : state.frame thread ≠ .Idle := by
    rcases hframe with hf | hf <;> simp [hf]
  cases hm with
  | Unsupported _ hcall | Entered _ hcall | Cloned hcall | Dropped hcall _ | LastDropped hcall _ =>
      exact absurd hcall.1 hbusy
  | Refused message hwait hat _ _ _ =>
      cases hwait with
      | Evaluate | ProvideCredentials => exact ⟨_, message, rfl⟩
      | Connect started => simp [hat] at hframe
  | RunEntered _ hat | CoreReturned _ _ hat => grind
  | EvaluateAdmitted _ _ hl => simp [hfinished] at hl
  | CredentialsAdmitted _ _ hl => simp [hfinished] at hl
  | _ => simp_all

end Moves

end OpenvpnConnect.Client
