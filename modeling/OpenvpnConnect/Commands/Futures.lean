import OpenvpnConnect.Commands.Ledger

namespace OpenvpnConnect.Commands

open Transition
open OpenvpnConnect.Tokio (Command)

section Futures

variable {ι : Type}

@[simp] theorem State.future_setFuture (state : State ι) (id other : Nat) (future : Future ι) :
    (state.setFuture id future).future other = if other = id then future else state.future other := rfl

@[simp] theorem State.future_goto (state : State ι) (id other : Nat) (phase : Phase ι) :
    (state.goto id phase).future other =
      if other = id then { state.future id with phase := phase } else state.future other := rfl

@[simp] theorem State.slot_setSlot (state : State ι) (id other : Nat) (slot : Slot ι) :
    (state.setSlot id slot).slot other = if other = id then slot else state.slot other := rfl

-- The command has gone into the channel, or will never go.
def Phase.settled : Phase ι → Bool
  | .Unpolled | .Reserving | .Reserved => false
  | _ => true

-- The futures of a run and the commands that they have sent.
structure Sending (trace : List (Event ι)) (state : State ι) : Prop where
  unborn : ∀ id, state.calls ≤ id → (state.future id).phase = .Unpolled
  called : ∀ id, (state.future id).phase ≠ .Unpolled → .Called id (state.future id).command ∈ trace
  settled : ∀ entry ∈ enqueued trace, (state.future entry.id).phase.settled
  nodup : ((enqueued trace).map Entry.id).Nodup
  own : ∀ entry ∈ enqueued trace, .Called entry.id entry.command ∈ trace

theorem sending_new (capacity : Nat) : Sending [] (.new capacity : State ι) where
  unborn := fun _ _ => rfl
  called := fun _ hphase => absurd rfl hphase
  settled := fun _ hmem => by cases hmem
  nodup := List.nodup_nil
  own := fun _ hmem => by cases hmem

-- A future that is on its way moves on, and nothing is enqueued.
theorem Sending.goto {trace seen : List (Event ι)} {state after : State ι} {id : Nat} {phase : Phase ι}
    (hs : Sending trace state) (hcalls : after.calls = state.calls)
    (hfuture : after.future = (state.goto id phase).future)
    (hbefore : (state.future id).phase ≠ .Unpolled)
    (hsettled : (state.future id).phase.settled → phase.settled) (hquiet : enqueued seen = []) :
    Sending (trace ++ seen) after := by
  have hborn : id < state.calls := by
    by_contra hlt
    exact hbefore (hs.unborn id (by omega))
  refine ⟨?_, ?_, ?_, ?_, ?_⟩
  · intro other hle
    have hne : other ≠ id := by omega
    rw [hfuture, State.future_goto, if_neg hne]
    exact hs.unborn other (by omega)
  · intro other hphase
    rw [hfuture, State.future_goto] at hphase ⊢
    apply List.mem_append_left
    by_cases he : other = id
    · subst he
      simpa using hs.called other hbefore
    · rw [if_neg he] at hphase ⊢
      exact hs.called other hphase
  · intro entry hmem
    rw [enqueued_append, hquiet, List.append_nil] at hmem
    rw [hfuture, State.future_goto]
    by_cases he : entry.id = id
    · rw [if_pos he]
      exact hsettled (he ▸ hs.settled entry hmem)
    · rw [if_neg he]
      exact hs.settled entry hmem
  · rw [enqueued_append, hquiet, List.append_nil]
    exact hs.nodup
  · intro entry hmem
    rw [enqueued_append, hquiet, List.append_nil] at hmem
    exact List.mem_append_left _ (hs.own entry hmem)

theorem Sending.quiet {trace seen : List (Event ι)} {state after : State ι} (hs : Sending trace state)
    (hcalls : after.calls = state.calls) (hfuture : after.future = state.future)
    (hquiet : enqueued seen = []) : Sending (trace ++ seen) after := by
  refine ⟨?_, ?_, ?_, ?_, ?_⟩
  · rw [hcalls, hfuture]
    exact hs.unborn
  · rw [hfuture]
    exact fun id hphase => List.mem_append_left _ (hs.called id hphase)
  · rw [enqueued_append, hquiet, List.append_nil, hfuture]
    exact hs.settled
  · rw [enqueued_append, hquiet, List.append_nil]
    exact hs.nodup
  · rw [enqueued_append, hquiet, List.append_nil]
    exact fun entry hmem => List.mem_append_left _ (hs.own entry hmem)

theorem Sending.call {trace : List (Event ι)} {state : State ι} (hs : Sending trace state)
    (handle : Nat) (command : Command) :
    Sending (trace ++ [.Called state.calls command])
      ({ state with calls := state.calls + 1 }.setFuture state.calls ⟨handle, command, .Reserving⟩) := by
  have hquiet : enqueued [(.Called state.calls command : Event ι)] = [] := rfl
  refine ⟨?_, ?_, ?_, ?_, ?_⟩
  · intro id hle
    have hlt : state.calls + 1 ≤ id := hle
    rw [State.future_setFuture, if_neg (by omega)]
    exact hs.unborn id (by omega)
  · intro id hphase
    rw [State.future_setFuture] at hphase ⊢
    by_cases he : id = state.calls
    · subst he
      simp
    · rw [if_neg he] at hphase ⊢
      exact List.mem_append_left _ (hs.called id hphase)
  · intro entry hmem
    rw [enqueued_append, hquiet, List.append_nil] at hmem
    have hsettled := hs.settled entry hmem
    have hne : entry.id ≠ state.calls := by
      intro he
      rw [he, hs.unborn state.calls (Nat.le_refl _)] at hsettled
      cases hsettled
    rw [State.future_setFuture, if_neg hne]
    exact hsettled
  · rw [enqueued_append, hquiet, List.append_nil]
    exact hs.nodup
  · intro entry hmem
    rw [enqueued_append, hquiet, List.append_nil] at hmem
    exact List.mem_append_left _ (hs.own entry hmem)

theorem Sending.send {trace : List (Event ι)} {state after : State ι} {id : Nat} (hs : Sending trace state)
    (hphase : (state.future id).phase = .Reserved) (hcalls : after.calls = state.calls)
    (hfuture : after.future = (state.goto id .Waiting).future) :
    Sending (trace ++ [.Enqueued ⟨id, (state.future id).command⟩]) after := by
  have hborn : id < state.calls := by
    by_contra hlt
    rw [hs.unborn id (by omega)] at hphase
    cases hphase
  have hnew : enqueued [(.Enqueued ⟨id, (state.future id).command⟩ : Event ι)] =
      [⟨id, (state.future id).command⟩] := rfl
  have hfresh : ∀ entry ∈ enqueued trace, entry.id ≠ id := by
    intro entry hmem he
    have hsettled := hs.settled entry hmem
    rw [he, hphase] at hsettled
    cases hsettled
  have hcalled := hs.called id (by simp [hphase])
  refine ⟨?_, ?_, ?_, ?_, ?_⟩
  · intro other hle
    have hne : other ≠ id := by omega
    rw [hfuture, State.future_goto, if_neg hne]
    exact hs.unborn other (by omega)
  · intro other hother
    rw [hfuture, State.future_goto] at hother ⊢
    apply List.mem_append_left
    by_cases he : other = id
    · subst he
      simpa using hcalled
    · rw [if_neg he] at hother ⊢
      exact hs.called other hother
  · intro entry hmem
    rw [hfuture, State.future_goto]
    rw [enqueued_append, hnew] at hmem
    rcases List.mem_append.mp hmem with hold | hmem
    · rw [if_neg (hfresh entry hold)]
      exact hs.settled entry hold
    · obtain rfl := List.mem_singleton.mp hmem
      simp [Phase.settled]
  · rw [enqueued_append, hnew, List.map_append]
    refine List.nodup_append.mpr ⟨hs.nodup, List.nodup_singleton _, ?_⟩
    intro first hfirst second hsecond
    obtain ⟨entry, hentry, rfl⟩ := List.mem_map.mp hfirst
    obtain rfl : second = id := by simpa using hsecond
    exact hfresh entry hentry
  · intro entry hmem
    rw [enqueued_append, hnew] at hmem
    apply List.mem_append_left
    rcases List.mem_append.mp hmem with hold | hmem
    · exact hs.own entry hold
    · obtain rfl := List.mem_singleton.mp hmem
      exact hcalled

theorem Sending.step {trace seen : List (Event ι)} {state after : State ι} (hs : Sending trace state)
    (hm : Move state after seen) : Sending (trace ++ seen) after := by
  cases hm with
  | Aside hsame => exact hs.quiet hsame.1 hsame.2.1 rfl
  | Passed hsame _ _ _ hseen =>
      refine hs.quiet hsame.1 hsame.2.1 ?_
      rcases hseen with rfl | rfl
      · rfl
      · rfl
  | Called handle command => exact hs.call handle command
  | Reserved hphase =>
      exact hs.goto rfl rfl (by simp [hphase]) (by simp [hphase, Phase.settled]) rfl
  | Refused hphase =>
      exact hs.goto rfl rfl (by simp [hphase]) (by simp [Phase.settled]) rfl
  | Sent hphase => exact hs.send hphase rfl rfl
  | Answered hphase | Closed hphase | Dropped hphase =>
      exact hs.goto rfl rfl (by simp [hphase]) (by simp [Phase.settled]) rfl
  | Withdrawn hsending =>
      refine hs.goto rfl rfl ?_ (by simp [Phase.settled]) rfl
      intro he
      rw [he] at hsending
      cases hsending
  | Taken | Began | Ended | Replied | Discarded => exact hs.quiet rfl rfl rfl

theorem run_sending {guard : List (Event ι) → State ι → Label ι → Prop} {capacity : Nat}
    {trace : List (Event ι)} {last : State ι}
    (hrun : Run machine guard (.new capacity) trace last) : Sending trace last :=
  hrun.invariant Sending (sending_new capacity) fun _ _ _ _ _ hs _ hstep => hs.step (step_move hstep)

end Futures

end OpenvpnConnect.Commands
