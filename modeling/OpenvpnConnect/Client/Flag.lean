import OpenvpnConnect.Client.Refinement
import OpenvpnConnect.Transition.Trace

namespace OpenvpnConnect.Client

open Transition

-- The thread has set the stop flag and makes the native call next.
def Frame.delivers : Frame → Bool
  | .StopNative | .DropStop => true
  | _ => false

-- The thread neither is in a stop call nor makes a native stop next.
def Frame.aloof : Frame → Bool
  | .StopSwap | .StopNative | .DropStop => false
  | _ => true

def Event.flags {ι : Type} : Event ι → Bool
  | .StopSwapped _ _ | .NativeStop _ _ | .Called _ .Stop | .Returned _ .Stop _ => true
  | _ => false

section Flag

variable {ι : Type}

def Unswapped (trace : List (Event ι)) : Prop := ∀ thread previous, .StopSwapped thread previous ∉ trace

-- The first swap finds the flag clear and makes the one native stop, the
-- others find it set, and a stop returns when somebody has set it.
def Claims (front : List (Event ι)) : Event ι → Prop
  | .StopSwapped _ previous => previous = true ↔ ∃ other, .StopSwapped other false ∈ front
  | .NativeStop thread _ => .StopSwapped thread false ∈ front ∧
      ∀ other accepted, .NativeStop other accepted ∉ front
  | .Returned _ .Stop _ => ∃ other, .StopSwapped other false ∈ front
  | _ => True

-- The flag and the stop calls, as long as nobody clears a flag that was set.
structure Flagged (trace : List (Event ι)) (state : State ι) : Prop where
  flag : state.stopRequested = true ↔ ∃ thread, .StopSwapped thread false ∈ trace
  alone : ∀ first second, .StopSwapped first false ∈ trace → .StopSwapped second false ∈ trace →
    first = second
  claimed : ∀ thread, (state.frame thread).delivers = true → .StopSwapped thread false ∈ trace ∧
    ∀ other accepted, .NativeStop other accepted ∉ trace
  delivered : ∀ thread, .StopSwapped thread false ∈ trace → (state.frame thread).delivers = true ∨
    ∃ accepted, .NativeStop thread accepted ∈ trace
  native : ∀ thread accepted, .NativeStop thread accepted ∈ trace → .StopSwapped thread false ∈ trace
  called : ∀ thread, .Called thread .Stop ∈ trace → state.frame thread = .StopSwap ∨
    ∃ other, .StopSwapped other false ∈ trace

theorem flagged_new : Flagged [] (State.new : State ι) := by
  constructor <;> simp [State.new, Frame.delivers]

variable [DecidableEq ι]

-- A step that has nothing to do with the flag.
theorem Flagged.quiet {trace seen : List (Event ι)} {state after : State ι} {thread : ι}
    (hf : Flagged trace state) (hm : Move thread state after seen)
    (hquiet : ∀ event ∈ seen, event.flags = false) (hstop : after.stopRequested = state.stopRequested)
    (hbefore : (state.frame thread).aloof = true) (hafter : (after.frame thread).aloof = true) :
    AlwaysFrom Claims trace seen ∧ Flagged (trace ++ seen) after := by
  have hnone : ∀ event, event.flags = true → event ∉ seen := by
    intro event hflags hmem
    rw [hquiet event hmem] at hflags
    cases hflags
  have hswap : ∀ other previous, .StopSwapped other previous ∈ trace ++ seen ↔
      .StopSwapped other previous ∈ trace := by
    intro other previous
    simp [hnone (.StopSwapped other previous) rfl]
  have hnative : ∀ other accepted, .NativeStop other accepted ∈ trace ++ seen ↔
      .NativeStop other accepted ∈ trace := by
    intro other accepted
    simp [hnone (.NativeStop other accepted) rfl]
  have hdelivers : ∀ other, (after.frame other).delivers = (state.frame other).delivers := by
    intro other
    by_cases heq : other = thread
    · rw [heq]
      cases hb : state.frame thread <;> cases ha : after.frame thread <;>
        simp [hb, ha, Frame.aloof, Frame.delivers] at hbefore hafter ⊢
    · rw [hm.frame_ne heq]
  have hswapping : ∀ other, after.frame other = .StopSwap ↔ state.frame other = .StopSwap := by
    intro other
    by_cases heq : other = thread
    · rw [heq]
      constructor <;> intro h
      · simp [h, Frame.aloof] at hafter
      · simp [h, Frame.aloof] at hbefore
    · rw [hm.frame_ne heq]
  refine ⟨alwaysFrom_of_split ?_, ?_⟩
  · intro front event back he
    have hflags := hquiet event (by simp [he])
    cases event with
    | Returned other call outcome => cases call <;> trivial
    | StopSwapped _ _ | NativeStop _ _ => cases hflags
    | _ => trivial
  · constructor
    · simp only [hswap, hstop]
      exact hf.flag
    · simp only [hswap]
      exact hf.alone
    · simp only [hswap, hnative, hdelivers]
      exact hf.claimed
    · simp only [hswap, hnative, hdelivers]
      exact hf.delivered
    · simp only [hswap, hnative]
      exact hf.native
    · intro other hmem
      have hcalled : .Called other .Stop ∈ trace := by
        simpa [hnone (.Called other .Stop) rfl] using hmem
      simp only [hswap, hswapping]
      exact hf.called other hcalled

attribute [local grind =] State.frame_goto State.goto State.leave State.enter

-- A stop call begins.
theorem Flagged.entered {trace : List (Event ι)} {state : State ι} {thread : ι}
    (hf : Flagged trace state) (hidle : state.frame thread = .Idle) :
    Flagged (trace ++ [.Called thread .Stop]) (state.enter thread .StopSwap) := by
  obtain ⟨hflag, halone, hclaimed, hdelivered, hnative, hcalled⟩ := hf
  constructor <;> grind [Frame.delivers]

-- The first swap.
theorem Flagged.set {trace : List (Event ι)} {state : State ι} {thread : ι} {frame : Frame}
    (hf : Flagged trace state) (hclear : state.stopRequested = false) (hframe : frame.delivers = true) :
    Flagged (trace ++ [.StopSwapped thread false])
      ({ state with stopRequested := true }.goto thread frame) := by
  have hnone : ∀ other, .StopSwapped other false ∉ trace := by
    intro other hmem
    simp [hf.flag.mpr ⟨other, hmem⟩] at hclear
  obtain ⟨hflag, halone, hclaimed, hdelivered, hnative, hcalled⟩ := hf
  constructor <;> grind

omit [DecidableEq ι] in
theorem mem_returning {trace rest : List (Event ι)} {first event : Event ι} {thread : ι}
    (hrest : ∀ event ∈ rest, ∃ call outcome, event = .Returned thread call outcome)
    (hevent : ∀ call outcome, event ≠ .Returned thread call outcome) :
    event ∈ trace ++ first :: rest ↔ event ∈ trace ∨ event = first := by
  have hnone : event ∉ rest := by
    intro hmem
    obtain ⟨call, outcome, he⟩ := hrest event hmem
    exact hevent call outcome he
  simp [hnone]

-- A thread that is done with the flag leaves nothing behind.
theorem Frame.not_delivers {frame : Frame} (haloof : frame.aloof = true) :
    frame.delivers = false ∧ frame ≠ .StopSwap := by
  cases frame <;> simp [Frame.aloof, Frame.delivers] at haloof ⊢

-- Another swap, whose thread is done with the flag.
omit [DecidableEq ι] in
theorem Flagged.again {trace rest : List (Event ι)} {state after : State ι} {thread : ι}
    (hf : Flagged trace state) (hset : state.stopRequested = true)
    (hswap : (state.frame thread).delivers = false) (hstop : after.stopRequested = true)
    (hframe : ∀ other, other ≠ thread → after.frame other = state.frame other)
    (haloof : (after.frame thread).aloof = true) (hrest : ∀ event ∈ rest, ∃ call outcome,
      event = .Returned thread call outcome) :
    Flagged (trace ++ .StopSwapped thread true :: rest) after := by
  obtain ⟨hflag, halone, hclaimed, hdelivered, hnative, hcalled⟩ := hf
  have hafter := (Frame.not_delivers haloof).1
  have hswapped : ∀ other, .StopSwapped other false ∈ trace ++ .StopSwapped thread true :: rest ↔
      .StopSwapped other false ∈ trace := by
    intro other
    simp [mem_returning hrest]
  have hsomeone := hflag.mp hset
  constructor
  · simpa [hswapped, hstop] using hsomeone
  · simpa only [hswapped] using halone
  · intro other hother
    have hne : other ≠ thread := by
      rintro rfl
      simp [hafter] at hother
    rw [hframe other hne] at hother
    simpa [hswapped, mem_returning hrest] using hclaimed other hother
  · intro other hother
    rw [hswapped] at hother
    simp only [mem_returning hrest, reduceCtorEq, ne_eq, not_false_eq_true, implies_true, or_false]
    by_cases heq : other = thread
    · subst heq
      exact .inr ((hdelivered other hother).resolve_left (by simp [hswap]))
    · rw [hframe other heq]
      exact hdelivered other hother
  · intro other accepted hother
    rw [hswapped]
    exact hnative other accepted (by simpa [mem_returning hrest] using hother)
  · intro other _
    simp only [hswapped]
    exact .inr hsomeone

-- The native stop of the first swap.
omit [DecidableEq ι] in
theorem Flagged.stopped {trace rest : List (Event ι)} {state after : State ι} {thread : ι}
    {accepted : Bool} (hf : Flagged trace state) (hdelivers : (state.frame thread).delivers = true)
    (hstop : after.stopRequested = state.stopRequested)
    (hframe : ∀ other, other ≠ thread → after.frame other = state.frame other)
    (haloof : (after.frame thread).aloof = true) (hrest : ∀ event ∈ rest, ∃ call outcome,
      event = .Returned thread call outcome) :
    Flagged (trace ++ .NativeStop thread accepted :: rest) after := by
  obtain ⟨hflag, halone, hclaimed, hdelivered, hnative, hcalled⟩ := hf
  have hafter := (Frame.not_delivers haloof).1
  have hswapped : ∀ other, .StopSwapped other false ∈ trace ++ .NativeStop thread accepted :: rest ↔
      .StopSwapped other false ∈ trace := by
    intro other
    simp [mem_returning hrest]
  have hmine := (hclaimed thread hdelivers).1
  constructor
  · simpa only [hswapped, hstop] using hflag
  · simpa only [hswapped] using halone
  · intro other hother
    have hne : other ≠ thread := by
      rintro rfl
      simp [hafter] at hother
    rw [hframe other hne] at hother
    exact absurd (halone other thread (hclaimed other hother).1 hmine) hne
  · intro other hother
    rw [hswapped] at hother
    obtain rfl := halone other thread hother hmine
    exact .inr ⟨accepted, by simp⟩
  · intro other earlier hother
    rw [hswapped]
    rcases (mem_returning hrest (by simp)).mp hother with hbefore | hnow
    · exact hnative other earlier hbefore
    · cases hnow
      exact hmine
  · intro other _
    simp only [hswapped]
    exact .inr ⟨thread, hmine⟩

-- A step keeps the flag in order, if it clears it only while nobody has swapped.
theorem Flagged.move {trace seen : List (Event ι)} {state after : State ι} {thread : ι}
    (hf : Flagged trace state) (hm : Move thread state after seen)
    (hreset : ∀ started, state.frame thread = .PrepareReset started → Unswapped trace) :
    AlwaysFrom Claims trace seen ∧ Flagged (trace ++ seen) after := by
  have hm' := hm
  cases hm with
  | Entered hentry hcall =>
      cases hentry with
      | Stop => exact ⟨by simp [Claims], hf.entered hcall.1⟩
      | Connect started =>
          refine hf.quiet hm' ?_ rfl (by simp [hcall.1, Frame.aloof]) (by simp [State.enter, Frame.aloof])
          cases started <;> simp [Event.flags, connectCall]
      | _ =>
          refine hf.quiet hm' ?_ rfl (by simp [hcall.1, Frame.aloof]) (by simp [State.enter, Frame.aloof])
          simp [Event.flags]
  | StopReset started hframe =>
      have hclear : state.stopRequested = false := by
        by_contra hset
        obtain ⟨other, hmem⟩ := hf.flag.mp (by simpa using hset)
        exact hreset started hframe other false hmem
      exact hf.quiet hm' (by simp [Event.flags]) hclear.symm (by simp [hframe, Frame.aloof])
        (by simp [Frame.aloof])
  | StopRepeated hframe hset =>
      obtain ⟨other, hmem⟩ := hf.flag.mp hset
      refine ⟨⟨⟨fun _ => ⟨other, hmem⟩, fun _ => rfl⟩, ⟨other, List.mem_append_left _ hmem⟩, trivial⟩, ?_⟩
      exact hf.again hset (by simp [hframe, Frame.delivers]) hset
        (fun other hne => State.frame_goto_ne _ _ hne) (by simp [State.leave, Frame.aloof]) (by simp)
  | DropRepeated hframe hset =>
      refine ⟨by simpa [Claims] using hf.flag.mp hset, ?_⟩
      exact hf.again hset (by simp [hframe, Frame.delivers]) hset
        (fun other hne => State.frame_goto_ne _ _ hne) (by simp [Frame.aloof]) (by simp)
  | StopFirst hframe hclear | DropFirst hframe hclear =>
      have hnone : ∀ other, .StopSwapped other false ∉ trace := by
        intro other hmem
        simp [hf.flag.mpr ⟨other, hmem⟩] at hclear
      exact ⟨by simpa [Claims] using hnone, hf.set hclear rfl⟩
  | StopDelivered hframe =>
      obtain ⟨hmine, hnone⟩ := hf.claimed thread (by simp [hframe, Frame.delivers])
      refine ⟨⟨⟨hmine, hnone⟩, ⟨thread, List.mem_append_left _ hmine⟩, trivial⟩, ?_⟩
      exact hf.stopped (by simp [hframe, Frame.delivers]) rfl
        (fun other hne => State.frame_goto_ne _ _ hne) (by simp [State.leave, Frame.aloof]) (by simp)
  | DropDelivered hframe =>
      obtain ⟨hmine, hnone⟩ := hf.claimed thread (by simp [hframe, Frame.delivers])
      refine ⟨⟨⟨hmine, hnone⟩, trivial⟩, ?_⟩
      exact hf.stopped (by simp [hframe, Frame.delivers]) rfl
        (fun other hne => State.frame_goto_ne _ _ hne) (by simp [Frame.aloof]) (by simp)
  | Refused message hwait hframe _ _ _ =>
      refine hf.quiet hm' ?_ rfl ?_ (by simp [State.leave, Frame.aloof])
      · cases hwait with
        | Connect started => cases started <;> simp [Event.flags, connectCall]
        | _ => simp [Event.flags]
      · cases hwait <;> simp [hframe, Frame.aloof]
  | RunEntered started hframe =>
      refine hf.quiet hm' (by simp [Event.flags]) rfl ?_ (by simp [Frame.aloof])
      rcases hframe with hframe | hframe <;> simp [hframe, Frame.aloof]
  | ConnectLeft started outcome hframe _ =>
      refine hf.quiet hm' ?_ rfl (by simp [hframe, Frame.aloof]) (by simp [Frame.aloof])
      cases state.connectStarted <;> simp [Event.flags]
  | Finished started outcome hframe _ =>
      refine hf.quiet hm' ?_ rfl (by simp [hframe, Frame.aloof]) (by simp [State.leave, Frame.aloof])
      cases started <;> simp [Event.flags, connectCall]
  | CoreReturned started outcome hframe =>
      refine hf.quiet hm' (by simp [Event.flags]) rfl ?_ (by simp [Frame.aloof])
      rcases hframe with hframe | hframe | hframe <;> simp [hframe, Frame.aloof]
  | _ =>
      refine hf.quiet hm' ?_ rfl ?_ ?_ <;>
        simp_all [Event.flags, State.leave, Frame.aloof, State.callable]

-- Who clears the flag, who swaps it and who makes a native stop.
theorem Move.cleared {state after : State ι} {thread other : ι} {seen : List (Event ι)}
    (hm : Move thread state after seen) (hmem : .StopCleared other ∈ seen) :
    (∃ started, state.frame thread = .PrepareReset started) ∧ seen = [.StopCleared thread] := by
  cases hm with
  | StopReset started hframe => exact ⟨⟨started, hframe⟩, rfl⟩
  | Entered hentry _ => cases hentry <;> simp at hmem
  | Refused _ _ _ _ _ _ => split at hmem <;> simp at hmem
  | _ => simp at hmem

theorem Move.swapped {state after : State ι} {thread other : ι} {previous : Bool}
    {seen : List (Event ι)} (hm : Move thread state after seen)
    (hmem : .StopSwapped other previous ∈ seen) :
    other = thread ∧ (state.frame thread = .StopSwap ∨ state.frame thread = .DropSwap) := by
  cases hm with
  | StopRepeated hframe _ | StopFirst hframe _ => exact ⟨by simp_all, .inl hframe⟩
  | DropRepeated hframe _ | DropFirst hframe _ => exact ⟨by simp_all, .inr hframe⟩
  | Entered hentry _ => cases hentry <;> simp at hmem
  | Refused _ _ _ _ _ _ => split at hmem <;> simp at hmem
  | _ => simp at hmem

theorem Move.stopped {state after : State ι} {thread other : ι} {accepted : Bool}
    {seen : List (Event ι)} (hm : Move thread state after seen)
    (hmem : .NativeStop other accepted ∈ seen) :
    other = thread ∧ accepted = state.accepting ∧
      (state.frame thread = .StopNative ∨ state.frame thread = .DropStop) := by
  cases hm with
  | StopDelivered hframe => exact ⟨by simp_all, by simp_all, .inl hframe⟩
  | DropDelivered hframe => exact ⟨by simp_all, by simp_all, .inr hframe⟩
  | Entered hentry _ => cases hentry <;> simp at hmem
  | Refused _ _ _ _ _ _ => split at hmem <;> simp at hmem
  | _ => simp at hmem

end Flag

-- A connect at such a frame has cleared the flag.
def Frame.prepared : Frame → Bool
  | .ConnectNative _ | .ConnectSetup _ | .ConnectEnabled _ | .ConnectRun _ => true
  | .CoreReturned _ _ | .LifecycleReset _ _ => true
  | _ => false

-- A connect at such a frame has Core behind it.
def Frame.exited : Frame → Bool
  | .CoreReturned _ _ | .LifecycleReset _ _ => true
  | _ => false

section Passed

variable {ι : Type}

-- What the trace tells of a connect by the frame that it is at.
structure Passed (trace : List (Event ι)) (state : State ι) : Prop where
  cleared : ∀ thread, (state.frame thread).prepared = true → .StopCleared thread ∈ trace
  exited : ∀ thread, (state.frame thread).exited = true → .CoreExit thread ∈ trace

theorem passed_new : Passed [] (State.new : State ι) := by
  constructor <;> simp [State.new, Frame.prepared, Frame.exited]

variable [DecidableEq ι]

theorem Move.passed {trace seen : List (Event ι)} {state after : State ι} {thread : ι}
    (hm : Move thread state after seen) (hp : Passed trace state) :
    ((after.frame thread).prepared = true → .StopCleared thread ∈ trace ++ seen) ∧
      ((after.frame thread).exited = true → .CoreExit thread ∈ trace ++ seen) := by
  have hcleared := hp.cleared thread
  have hexited := hp.exited thread
  cases hm with
  | Entered hentry hcall => cases hentry <;> simp [State.enter, Frame.prepared, Frame.exited]
  | Unsupported _ hcall | Cloned hcall | Dropped hcall _ => simp [hcall.1, Frame.prepared, Frame.exited]
  | RunEntered started hframe =>
      have hbefore : .StopCleared thread ∈ trace := hcleared (by
        rcases hframe with hframe | hframe <;> rw [hframe] <;> rfl)
      simp [hbefore, Frame.exited]
  | CoreReturned started outcome hframe =>
      have hbefore : .StopCleared thread ∈ trace := hcleared (by
        rcases hframe with hframe | hframe | hframe <;> rw [hframe] <;> rfl)
      simp [hbefore]
  | _ => simp_all [State.leave, Frame.prepared, Frame.exited]

theorem Passed.move {trace seen : List (Event ι)} {state after : State ι} {thread : ι}
    (hp : Passed trace state) (hm : Move thread state after seen) : Passed (trace ++ seen) after := by
  constructor
  · intro other hother
    by_cases heq : other = thread
    · exact heq ▸ (hm.passed hp).1 (heq ▸ hother)
    · rw [hm.frame_ne heq] at hother
      exact List.mem_append_left _ (hp.cleared other hother)
  · intro other hother
    by_cases heq : other = thread
    · exact heq ▸ (hm.passed hp).2 (heq ▸ hother)
    · rw [hm.frame_ne heq] at hother
      exact List.mem_append_left _ (hp.exited other hother)

variable {capabilities : Capabilities}

theorem run_passed {guard : List (Event ι) → State ι → Label ι → Prop} {trace : List (Event ι)}
    {last : State ι} (hrun : Run (machine capabilities) guard State.new trace last) :
    Passed trace last :=
  hrun.invariant Passed passed_new fun _ _ _ _ _ hp _ hs => hp.move (step_move hs)

end Passed

end OpenvpnConnect.Client
