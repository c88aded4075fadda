import OpenvpnConnect.Client.Theorems

namespace OpenvpnConnect.Client

open Transition

section Stop

variable {ι : Type} [DecidableEq ι] {capabilities : Capabilities}

def swapped (thread : ι) (fresh : Bool) : Event ι → Bool
  | .StopCleared _ => false
  | .StopSwapped caller _ => if caller = thread then true else fresh
  | _ => fresh

-- The thread has swapped the stop flag after it was last cleared.
def fresh (thread : ι) (trace : List (Event ι)) : Bool := trace.foldl (swapped thread) false

-- prepare_connect is done and Core has not returned.
def Prepared (state : State ι) : Prop :=
  state.lifecycle = .Connecting ∧ state.lock = none ∧ state.core ≠ .Returned

-- Core is not there yet: it ignores a stop.
def Deaf (state : State ι) : Prop := Prepared state ∧ state.core ≠ .Accepting

instance (state : State ι) : Decidable (Prepared state) :=
  inferInstanceAs (Decidable (_ ∧ _ ∧ _))

instance (state : State ι) : Decidable (Deaf state) :=
  inferInstanceAs (Decidable (_ ∧ _))

-- No stop call that swapped the flag after it was cleared goes on to its
-- native stop while Core ignores it.
def Timely (trace : List (Event ι)) (state : State ι) (label : Label ι) : Prop :=
  ¬(state.frame label.thread = .StopNative ∧ fresh label.thread trace = true ∧ Deaf state)

instance (trace : List (Event ι)) (state : State ι) (label : Label ι) :
    Decidable (Timely trace state label) :=
  inferInstanceAs (Decidable ¬(_ ∧ _ ∧ _))

def Delivered (trace : List (Event ι)) : Prop := ∃ thread, .NativeStop thread true ∈ trace

-- A stop call has set the flag since it was cleared and is about to call native stop.
def InFlight (trace : List (Event ι)) (state : State ι) : Prop :=
  ∃ thread, state.frame thread = .StopNative ∧ fresh thread trace = true

theorem fresh_append (thread : ι) (front back : List (Event ι)) :
    fresh thread (front ++ back) = back.foldl (swapped thread) (fresh thread front) :=
  List.foldl_append

omit [DecidableEq ι] in
theorem Delivered.append {front : List (Event ι)} (h : Delivered front) (back : List (Event ι)) :
    Delivered (front ++ back) := by
  obtain ⟨thread, hmem⟩ := h
  exact ⟨thread, List.mem_append_left _ hmem⟩

-- Only the reset of prepare_connect makes a swap stale.
theorem Move.fresh {state after : State ι} {thread other : ι} {seen front : List (Event ι)}
    (hm : Move thread state after seen) (hreset : ∀ started, state.frame thread ≠ .PrepareReset started)
    (hbefore : fresh other front = true) : Client.fresh other (front ++ seen) = true := by
  rw [fresh_append, hbefore]
  cases hm with
  | StopReset started hframe => exact absurd hframe (hreset started)
  | Entered hentry _ => cases hentry <;> rfl
  | Refused message _ _ _ _ _ => split <;> rfl
  | RunEntered _ _ | ConnectLeft _ _ _ _ => cases state.connectStarted <;> rfl
  | _ => simp [Client.swapped]

-- A thread at its native stop can only make it.
theorem Move.of_stopNative {state after : State ι} {thread : ι} {seen : List (Event ι)}
    (hm : Move thread state after seen) (hframe : state.frame thread = .StopNative) :
    seen = [.NativeStop thread state.accepting, .Returned thread .Stop .Ok] := by
  cases hm with
  | StopDelivered _ => rfl
  | Unsupported _ hcall | Entered _ hcall | Cloned hcall | Dropped hcall _ | LastDropped hcall _ =>
      simp [hcall.1] at hframe
  | Refused _ hwait hat _ _ _ => cases hwait <;> simp [hframe] at hat
  | _ => simp_all

theorem Move.stopRequested {state after : State ι} {thread : ι} {seen : List (Event ι)}
    (hm : Move thread state after seen) (hafter : after.stopRequested = true) :
    state.stopRequested = true ∨ state.frame thread = .DropSwap ∨
      after.frame thread = .StopNative ∧ seen = [.StopSwapped thread false] := by
  cases hm with
  | StopFirst _ _ => exact .inr (.inr ⟨State.frame_goto_self _ _ _, rfl⟩)
  | DropFirst hframe _ => exact .inr (.inl hframe)
  | StopReset _ _ => cases hafter
  | _ => exact .inl hafter

-- Who is at the reset holds the lock.
theorem Describes.not_resetting {session : Session ι} {state : State ι} (hd : Describes session state)
    (hp : Prepared state) (thread : ι) (started : Bool) :
    state.frame thread ≠ .PrepareReset started := by
  intro hframe
  have hstage := Stage.of_admits ((hd.role thread).symm.trans (by rw [hframe]; rfl))
  have hlock : some thread = none := by
    rw [← hp.2.1, hd.lock, hstage]
    rfl
  cases hlock

-- Only the reset prepares a connect, and it clears the flag.
theorem Move.prepared {session : Session ι} {state after : State ι} {thread : ι}
    {seen : List (Event ι)} (hm : Move thread state after seen) (hd : Describes session state)
    (hafter : Prepared after) : after.stopRequested = false ∨ Prepared state := by
  have hrole : session.stage.role thread = (state.frame thread).role := (hd.role thread).symm
  cases hm with
  | StopReset _ _ => exact .inl rfl
  | EvaluateAdmitted _ _ _ | CredentialsAdmitted _ _ _ | ConnectAdmitted _ _ _ _ => cases hafter.2.1
  | Evaluated _ | Finished _ _ _ _ => cases hafter.1
  | CoreReturned _ _ _ => exact absurd rfl hafter.2.2
  | EvaluateFailed _ hframe _ =>
      obtain ⟨evaluated, hstage⟩ := Stage.of_evaluates (hrole.trans (by rw [hframe]; rfl))
      have hl : state.lifecycle = .Connecting := hafter.1
      rw [hd.lifecycle, hstage] at hl
      cases evaluated <;> cases hl
  | CredentialsReturned _ hframe =>
      have hstage := Stage.of_supplies (hrole.trans (by rw [hframe]; rfl))
      have hl : state.lifecycle = .Connecting := hafter.1
      rw [hd.lifecycle, hstage] at hl
      cases hl
  | NativeEntered _ hframe =>
      have hstage := Stage.of_enters (hrole.trans (by rw [hframe]; rfl))
      refine .inr ⟨hafter.1, hafter.2.1, ?_⟩
      rw [hd.core, hstage]
      simp [Stage.core]
  | SetupDone _ hframe =>
      have hstage := Stage.of_runs (hrole.trans (by rw [hframe]; rfl))
      refine .inr ⟨hafter.1, hafter.2.1, ?_⟩
      rw [hd.core, hstage]
      simp [Stage.core]
  | _ => exact .inr hafter

-- A connect borrows a clone, so the last one is not being dropped meanwhile.
theorem Describes.not_dropping {session : Session ι} {state : State ι} (hd : Describes session state)
    (howned : Owned state) (hp : Prepared state) (thread : ι) : state.frame thread ≠ .DropSwap := by
  intro hframe
  have hclones := (howned.last thread (by rw [hframe]; rfl)).1
  have hl := hd.lifecycle
  rw [hp.1] at hl
  rcases hd.unborrowed howned hclones with ⟨evaluated, hstage⟩ | hstage <;> rw [hstage] at hl
  · cases evaluated <;> cases hl
  · cases hl

-- A requested stop has been delivered or is on its way.
def Pending (trace : List (Event ι)) (state : State ι) : Prop :=
  Prepared state → state.stopRequested = true → Delivered trace ∨ InFlight trace state

theorem Pending.move {session : Session ι} {state after : State ι} {thread : ι}
    {seen trace : List (Event ι)} (hm : Move thread state after seen) (howned : Owned state)
    (hd : Describes session state)
    (htimely : ¬(state.frame thread = .StopNative ∧ Client.fresh thread trace = true ∧ Deaf state))
    (hpending : Pending trace state) : Pending (trace ++ seen) after := by
  intro hafter hstop
  rcases hm.prepared hd hafter with hcleared | hp
  · rw [hcleared] at hstop
    cases hstop
  have hreset := hd.not_resetting hp thread
  rcases hm.stopRequested hstop with hbefore | hdrop | ⟨hframe, rfl⟩
  · rcases hpending hp hbefore with hdelivered | ⟨other, hother, hfresh⟩
    · exact .inl (hdelivered.append seen)
    · by_cases heq : other = thread
      · -- the stop call on its way arrives, and Core accepts it
        subst heq
        rw [hm.of_stopNative hother]
        have haccepting : state.accepting = true := by
          by_contra hne
          have hcore : state.core ≠ .Accepting := by simpa [State.accepting] using hne
          exact htimely ⟨hother, hfresh, hp, hcore⟩
        exact .inl ⟨other, by simp [haccepting]⟩
      · exact .inr ⟨other, (hm.frame_ne heq).trans hother, hm.fresh hreset hfresh⟩
  · exact absurd hdrop (hd.not_dropping howned hp thread)
  · refine .inr ⟨thread, hframe, ?_⟩
    rw [fresh_append]
    simp [swapped]

theorem run_pending {trace : List (Event ι)} {last : State ι}
    (hrun : Run (machine capabilities) Timely State.new trace last) : Pending trace last := by
  refine hrun.invariant_with (fun _ state => Owned state ∧ ∃ session, Describes session state) Pending
    (fun _ _ h => ⟨run_owned h, run_describes h⟩) ?_ ?_
  · intro hp
    cases hp.1
  · rintro trace before label after seen ⟨howned, session, hd⟩ hpending htimely hs
    exact hpending.move (step_move hs) howned hd htimely

-- Core accepts nothing before it is set up.
def Heard (trace : List (Event ι)) (state : State ι) : Prop :=
  Delivered trace → state.core = .Accepting ∨ state.core = .Returned

theorem Move.delivered {state after : State ι} {thread : ι} {seen front : List (Event ι)}
    (hm : Move thread state after seen) (hafter : Delivered (front ++ seen)) :
    Delivered front ∨ state.core = .Accepting ∧ after.core = .Accepting := by
  obtain ⟨other, hmem⟩ := hafter
  rcases List.mem_append.mp hmem with hfront | hseen
  · exact .inl ⟨other, hfront⟩
  right
  cases hm with
  | StopDelivered _ | DropDelivered _ => simp_all [State.accepting, State.leave, State.goto]
  | Entered hentry _ => cases hentry <;> simp at hseen
  | Refused message _ _ _ _ _ => split at hseen <;> simp at hseen
  | _ => simp at hseen

theorem Heard.move {session : Session ι} {state after : State ι} {thread : ι}
    {seen trace : List (Event ι)} (hm : Move thread state after seen)
    (hd : Describes session state) (hheard : Heard trace state) : Heard (trace ++ seen) after := by
  intro hafter
  rcases hm.delivered hafter with hbefore | ⟨_, haccepting⟩
  · have hcore := hheard hbefore
    have hrole : session.stage.role thread = (state.frame thread).role := (hd.role thread).symm
    cases hm with
    | NativeEntered _ hframe =>
        have hstage := Stage.of_enters (hrole.trans (by rw [hframe]; rfl))
        rw [hd.core, hstage] at hcore
        simp [Stage.core] at hcore
    | SetupDone _ _ => exact .inl rfl
    | CoreReturned _ _ _ => exact .inr rfl
    | _ => exact hcore
  · exact .inl haccepting

theorem run_heard {guard : List (Event ι) → State ι → Label ι → Prop} {trace : List (Event ι)}
    {last : State ι} (hrun : Run (machine capabilities) guard State.new trace last) :
    Heard trace last := by
  refine hrun.invariant_with (fun _ state => ∃ session, Describes session state) Heard
    (fun _ _ h => run_describes h) ?_ ?_
  · rintro ⟨thread, hmem⟩
    cases hmem
  · rintro trace before label after seen ⟨session, hd⟩ hheard _ hs
    exact hheard.move (step_move hs) hd

theorem Describes.prepared_of_accepting {session : Session ι} {state : State ι}
    (hd : Describes session state) (hl : state.lifecycle = .Connecting)
    (hcore : state.core = .Accepting) : Prepared state := by
  refine ⟨hl, ?_, by simp [hcore]⟩
  have hstage := hd.core.symm.trans hcore
  rw [hd.lock]
  cases hs : session.stage <;> simp_all [Stage.core, Stage.lock]

-- A stop that was requested while a connect is prepared has been delivered or
-- is on its way, and one that comes too early is still on its way.
theorem stop_not_lost {trace : List (Event ι)} {last : State ι}
    (hrun : Run (machine capabilities) Timely State.new trace last)
    (hconnecting : last.lifecycle = .Connecting) (hstop : last.stopRequested = true) :
    (last.core = .Accepting → Delivered trace ∨ InFlight trace last) ∧
      (Deaf last → InFlight trace last) := by
  obtain ⟨session, hd⟩ := run_describes hrun
  have hpending := run_pending hrun
  constructor
  · intro hcore
    exact hpending (hd.prepared_of_accepting hconnecting hcore) hstop
  · intro hdeaf
    rcases hpending hdeaf.1 hstop with hdelivered | hflight
    · rcases run_heard hrun hdelivered with hcore | hcore
      · exact absurd hcore hdeaf.2
      · exact absurd hcore hdeaf.1.2.2
    · exact hflight

end Stop

-- Thread 0 evaluates and connects. Thread 1 stops it when Core accepts.
def served : List (Label (Fin 2)) :=
  [.Evaluate 0 plain, .Step 0, .NativeReturn 0 .Ok,
    .Connect 0 false, .Step 0, .Step 0, .Step 0, .Step 0, .Stop 1, .Step 1, .Step 1]

-- Thread 1 stops while Core is set up: it is swallowed, and so is the next stop.
def lost : List (Label (Fin 2)) :=
  [.Evaluate 0 plain, .Step 0, .NativeReturn 0 .Ok,
    .Connect 0 false, .Step 0, .Step 0, .Stop 1, .Step 1, .Step 1, .Step 0, .Step 0,
    .Stop 1, .Step 1]

theorem stop_lost : ∃ trace last, Reaches (machine capable) (State.new : State (Fin 2)) trace last ∧
    (last.lifecycle = .Connecting ∧ last.core = .Accepting ∧ last.stopRequested = true) ∧
    (∀ thread, last.frame thread ≠ .StopNative) ∧ (∀ thread, .NativeStop thread true ∉ trace) ∧
    [.StopSwapped 1 true, .Returned 1 .Stop .Ok] <:+ trace :=
  exists_run lost (by decide)

theorem stop_not_lost_served : ∃ trace last,
    Run (machine capable) Timely (State.new : State (Fin 2)) trace last ∧
    .NativeStop 1 true ∈ trace ∧ (last.core = .Accepting → Delivered trace ∨ InFlight trace last) := by
  obtain ⟨trace, last, hrun, hmem, hl, hstop⟩ : ∃ trace last,
      Run (machine capable) Timely (State.new : State (Fin 2)) trace last ∧
      .NativeStop 1 true ∈ trace ∧ last.lifecycle = .Connecting ∧ last.stopRequested = true :=
    exists_run served (by decide)
  exact ⟨trace, last, hrun, hmem, (stop_not_lost hrun hl hstop).1⟩

end OpenvpnConnect.Client
