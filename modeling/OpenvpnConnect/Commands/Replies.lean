import OpenvpnConnect.Commands.Futures

namespace OpenvpnConnect.Commands

open Transition
open OpenvpnConnect.Tokio (Command)

section Replies

variable {ι : Type}

-- A oneshot is closed without a value where its command has not been enqueued
-- or has gone with the receiver, and holds what its command's execution gave.
structure Replies (trace : List (Event ι)) (state : State ι) : Prop where
  closed : ∀ id, state.slot id = .Closed → (state.future id).phase.settled ∧
    ∀ entry ∈ enqueued trace, entry.id = id → entry ∈ discarded trace
  sent : ∀ id reply, state.slot id = .Sent reply → ∃ entry, entry.id = id ∧ .Ended entry reply ∈ trace
  replying : ∀ entry reply, state.driver.replying = some (entry, reply) → .Ended entry reply ∈ trace
  refused : ∀ id error, .Returned id (.error error) ∈ trace →
    error = .SessionClosed ∧ state.slot id = .Closed

theorem replies_new (capacity : Nat) : Replies [] (.new capacity : State ι) where
  closed := fun _ hslot => by cases hslot
  sent := fun _ _ hslot => by cases hslot
  replying := fun _ _ hreplying => by cases hreplying
  refused := fun _ _ hmem => by cases hmem

theorem mem_began_of_ended {trace : List (Event ι)} {state : State ι} {entry : Entry} {reply : Reply ι}
    (hl : Ledger trace state) (hmem : .Ended entry reply ∈ trace) : entry ∈ began trace := by
  rw [hl.serial]
  exact List.mem_append_left _ (List.mem_filterMap.mpr ⟨_, hmem, rfl⟩)

-- What has begun does not go with the receiver.
theorem not_discarded_of_began {trace : List (Event ι)} {state : State ι} {entry other : Entry}
    (hl : Ledger trace state) (hs : Sending trace state) (hbegan : entry ∈ began trace)
    (hdiscarded : other ∈ discarded trace) : entry.id ≠ other.id := by
  have hnodup := hs.nodup
  rw [hl.flow, List.append_assoc, List.append_assoc, List.map_append] at hnodup
  have hrest : other ∈ state.driver.taken ++ (discarded trace ++ state.commands) := by
    simp [hdiscarded]
  exact (List.nodup_append.mp hnodup).2.2 _ (List.mem_map_of_mem hbegan) _ (List.mem_map_of_mem hrest)

theorem Replies.not_began {trace : List (Event ι)} {state : State ι} {id : Nat} {entry : Entry}
    (hr : Replies trace state) (hl : Ledger trace state) (hs : Sending trace state)
    (hclosed : state.slot id = .Closed) (hbegan : entry ∈ began trace) : entry.id ≠ id := by
  intro he
  have hmem := (hr.closed id hclosed).2 entry (hl.began_prefix.subset hbegan) he
  exact not_discarded_of_began hl hs hbegan hmem rfl

-- A future moves on without a word to the oneshots.
theorem Replies.goto {trace seen : List (Event ι)} {state after : State ι}
    (hr : Replies trace state) (hslot : after.slot = state.slot)
    (hphase : ∀ id, (state.future id).phase.settled → (after.future id).phase.settled)
    (hreplying : ∀ entry reply, after.driver.replying = some (entry, reply) →
      state.driver.replying = some (entry, reply) ∨ .Ended entry reply ∈ seen)
    (hquiet : enqueued seen = [])
    (hrefused : ∀ id error, .Returned id (.error error) ∈ seen →
      error = .SessionClosed ∧ state.slot id = .Closed) : Replies (trace ++ seen) after := by
  refine ⟨?_, ?_, ?_, ?_⟩
  · intro id hclosed
    rw [hslot] at hclosed
    obtain ⟨hsettled, hdiscarded⟩ := hr.closed id hclosed
    refine ⟨hphase id hsettled, fun entry hmem he => ?_⟩
    rw [enqueued_append, hquiet, List.append_nil] at hmem
    rw [discarded_append]
    exact List.mem_append_left _ (hdiscarded entry hmem he)
  · intro id reply hsent
    rw [hslot] at hsent
    obtain ⟨entry, he, hended⟩ := hr.sent id reply hsent
    exact ⟨entry, he, List.mem_append_left _ hended⟩
  · intro entry reply hafter
    rcases hreplying entry reply hafter with hold | hnew
    · exact List.mem_append_left _ (hr.replying entry reply hold)
    · exact List.mem_append_right _ hnew
  · intro id error hmem
    rw [hslot]
    rcases List.mem_append.mp hmem with hold | hnew
    · exact hr.refused id error hold
    · exact hrefused id error hnew

-- The oneshot of a command is closed that has not been enqueued, or that goes
-- with the receiver.
theorem Replies.close {trace seen : List (Event ι)} {state after : State ι} {id : Nat}
    (hr : Replies trace state) (hslot : after.slot = (state.setSlot id .Closed).slot)
    (hphase : ∀ other, other ≠ id → (state.future other).phase.settled → (after.future other).phase.settled)
    (hsettled : (after.future id).phase.settled) (hdriver : after.driver = state.driver)
    (hquiet : enqueued seen = [])
    (hgone : ∀ entry ∈ enqueued trace, entry.id = id → entry ∈ discarded seen)
    (hrefused : ∀ other error, .Returned other (.error error) ∈ seen →
      error = .SessionClosed ∧ other = id) : Replies (trace ++ seen) after := by
  refine ⟨?_, ?_, ?_, ?_⟩
  · intro other hclosed
    by_cases he : other = id
    · subst he
      refine ⟨hsettled, fun entry hmem hid => ?_⟩
      rw [enqueued_append, hquiet, List.append_nil] at hmem
      rw [discarded_append]
      exact List.mem_append_right _ (hgone entry hmem hid)
    · rw [hslot, State.slot_setSlot, if_neg he] at hclosed
      obtain ⟨hold, hdiscarded⟩ := hr.closed other hclosed
      refine ⟨hphase other he hold, fun entry hmem hid => ?_⟩
      rw [enqueued_append, hquiet, List.append_nil] at hmem
      rw [discarded_append]
      exact List.mem_append_left _ (hdiscarded entry hmem hid)
  · intro other reply hsent
    rw [hslot, State.slot_setSlot] at hsent
    by_cases he : other = id
    · rw [if_pos he] at hsent
      cases hsent
    · rw [if_neg he] at hsent
      obtain ⟨entry, hid, hended⟩ := hr.sent other reply hsent
      exact ⟨entry, hid, List.mem_append_left _ hended⟩
  · intro entry reply hreplying
    rw [hdriver] at hreplying
    exact List.mem_append_left _ (hr.replying entry reply hreplying)
  · intro other error hmem
    rw [hslot, State.slot_setSlot]
    rcases List.mem_append.mp hmem with hold | hnew
    · obtain ⟨hclosed, hslot⟩ := hr.refused other error hold
      refine ⟨hclosed, ?_⟩
      split
      · rfl
      · exact hslot
    · obtain ⟨hclosed, rfl⟩ := hrefused other error hnew
      exact ⟨hclosed, if_pos rfl⟩

theorem settled_goto {state : State ι} {id : Nat} {phase : Phase ι}
    (hsettled : (state.future id).phase.settled → phase.settled) (other : Nat)
    (hother : (state.future other).phase.settled) : ((state.goto id phase).future other).phase.settled := by
  rw [State.future_goto]
  by_cases he : other = id
  · rw [if_pos he]
    exact hsettled (he ▸ hother)
  · rw [if_neg he]
    exact hother

-- A command whose future has not sent it is nowhere.
theorem Sending.not_enqueued {trace : List (Event ι)} {state : State ι} {id : Nat}
    (hs : Sending trace state) (hsending : (state.future id).phase.sending) {entry : Entry}
    (hmem : entry ∈ enqueued trace) : entry.id ≠ id := by
  rintro rfl
  have hsettled := hs.settled entry hmem
  cases hphase : (state.future entry.id).phase <;> simp [hphase, Phase.sending, Phase.settled] at hsending hsettled

theorem Replies.withdraw {trace seen : List (Event ι)} {state after : State ι} {id : Nat} {phase : Phase ι}
    (hr : Replies trace state) (hs : Sending trace state) (hsending : (state.future id).phase.sending)
    (hslot : after.slot = (state.setSlot id .Closed).slot) (hfuture : after.future = (state.goto id phase).future)
    (hphase : phase.settled) (hdriver : after.driver = state.driver) (hquiet : enqueued seen = [])
    (hrefused : ∀ other error, .Returned other (.error error) ∈ seen →
      error = .SessionClosed ∧ other = id) : Replies (trace ++ seen) after := by
  refine hr.close hslot ?_ ?_ hdriver hquiet ?_ hrefused
  · intro other _ hother
    rw [hfuture]
    exact settled_goto (fun _ => hphase) other hother
  · rw [hfuture, State.future_goto, if_pos rfl]
    exact hphase
  · intro entry hmem he
    exact absurd he (hs.not_enqueued hsending hmem)

theorem Replies.step {trace seen : List (Event ι)} {state after : State ι} (hr : Replies trace state)
    (hl : Ledger trace state) (hs : Sending trace state) (hm : Move state after seen) :
    Replies (trace ++ seen) after := by
  have hkept : ∀ {driver : Driver ι}, driver = state.driver → ∀ entry reply,
      driver.replying = some (entry, reply) → state.driver.replying = some (entry, reply) ∨ .Ended entry reply ∈ seen :=
    fun he _ _ hreplying => .inl (he ▸ hreplying)
  cases hm with
  | Aside hsame hdriver =>
      refine hr.goto hsame.2.2.1 ?_ (hkept hdriver) rfl (by simp)
      rw [hsame.2.1]
      exact fun _ h => h
  | Passed hsame hidle hnext _ hseen =>
      refine hr.goto hsame.2.2.1 ?_ ?_ ?_ ?_
      · rw [hsame.2.1]
        exact fun _ h => h
      · intro entry reply hreplying
        rw [hnext.2.2] at hreplying
        cases hreplying
      · rcases hseen with rfl | rfl <;> rfl
      · rcases hseen with rfl | rfl <;> simp
  | Called handle command =>
      refine hr.goto rfl ?_ (hkept rfl) rfl (by simp)
      intro id hsettled
      rw [State.future_setFuture]
      split
      · rename_i he
        rw [he, hs.unborn state.calls (Nat.le_refl _)] at hsettled
        cases hsettled
      · exact hsettled
  | Reserved hphase =>
      exact hr.goto rfl (settled_goto (by simp [hphase, Phase.settled])) (hkept rfl) rfl (by simp)
  | @Refused id hphase =>
      have hsending : (state.future id).phase.sending := by rw [hphase]; rfl
      exact hr.withdraw hs hsending rfl rfl rfl rfl rfl (by simp)
  | @Sent id hphase =>
      have hsending : (state.future id).phase.sending := by rw [hphase]; rfl
      refine ⟨?_, ?_, ?_, ?_⟩
      · intro other hclosed
        obtain ⟨hsettled, hdiscarded⟩ := hr.closed other hclosed
        refine ⟨settled_goto (by simp [Phase.settled]) other hsettled, fun entry hmem he => ?_⟩
        rw [discarded_append]
        rw [enqueued_append] at hmem
        apply List.mem_append_left
        rcases List.mem_append.mp hmem with hold | hnew
        · exact hdiscarded entry hold he
        · have hsent : entry = ⟨id, (state.future id).command⟩ := List.mem_singleton.mp hnew
          subst hsent
          obtain rfl : id = other := he
          rw [hphase] at hsettled
          cases hsettled
      · intro other reply hsent
        obtain ⟨entry, he, hended⟩ := hr.sent other reply hsent
        exact ⟨entry, he, List.mem_append_left _ hended⟩
      · exact fun entry reply hreplying => List.mem_append_left _ (hr.replying entry reply hreplying)
      · intro other error hmem
        exact hr.refused other error (by simpa using hmem)
  | Answered hphase =>
      exact hr.goto rfl (settled_goto fun _ => rfl) (hkept rfl) rfl (by simp)
  | Closed hphase hslot =>
      refine hr.goto rfl (settled_goto fun _ => rfl) (hkept rfl) rfl ?_
      intro other error hmem
      obtain ⟨rfl, rfl⟩ : _ ∧ _ := by simpa using hmem
      exact ⟨rfl, hslot⟩
  | Withdrawn hsending => exact hr.withdraw hs hsending rfl rfl rfl rfl rfl (by simp)
  | Dropped hphase => exact hr.goto rfl (settled_goto fun _ => rfl) (hkept rfl) rfl (by simp)
  | Taken | Began => exact hr.goto rfl (fun _ h => h) (fun _ _ h => by cases h) rfl (by simp)
  | Ended =>
      refine hr.goto rfl (fun _ h => h) ?_ rfl (by simp)
      intro entry reply hreplying
      obtain ⟨rfl, rfl⟩ := Prod.mk.inj (Option.some.inj hreplying)
      exact .inr List.mem_cons_self
  | @Replied entry reply hdriver =>
      have hended : .Ended entry reply ∈ trace := hr.replying entry reply (by rw [hdriver]; rfl)
      have hbegan := mem_began_of_ended hl hended
      rw [List.append_nil]
      refine ⟨?_, ?_, fun _ _ h => (by cases h), ?_⟩
      · intro id hclosed
        rw [State.slot_setSlot] at hclosed
        split at hclosed
        · cases hclosed
        · exact hr.closed id hclosed
      · intro id other hsent
        rw [State.slot_setSlot] at hsent
        split at hsent
        · rename_i he
          cases hsent
          exact ⟨entry, he.symm, hended⟩
        · exact hr.sent id other hsent
      · intro id error hmem
        obtain ⟨hclosed, hslot⟩ := hr.refused id error hmem
        have hne : id ≠ entry.id := fun he => hr.not_began hl hs hslot hbegan he.symm
        rw [State.slot_setSlot, if_neg hne]
        exact ⟨hclosed, hslot⟩
  | @Discarded entry rest hdriver hcommands =>
      have hmem : entry ∈ enqueued trace := by
        rw [hl.flow, hcommands]
        simp
      refine hr.close rfl (fun _ _ h => h) (hs.settled entry hmem) rfl rfl ?_ (by simp)
      intro other hother he
      obtain rfl := List.inj_on_of_nodup_map hs.nodup hother hmem he
      exact List.mem_singleton_self _

theorem run_replies {guard : List (Event ι) → State ι → Label ι → Prop} {capacity : Nat}
    {trace : List (Event ι)} {last : State ι}
    (hrun : Run machine guard (.new capacity) trace last) : Replies trace last :=
  hrun.invariant_with (fun trace state => Ledger trace state ∧ Sending trace state) Replies
    (fun _ _ h => ⟨run_ledger h, run_sending h⟩) (replies_new capacity)
    fun _ _ _ _ _ h hr _ hstep => hr.step h.1 h.2 (step_move hstep)

-- A reply is what the execution of the future's own command gave.
def Answers (front : List (Event ι)) : Event ι → Prop
  | .Returned id (.ok reply) => ∃ command, .Called id command ∈ front ∧ .Ended ⟨id, command⟩ reply ∈ front
  | _ => True

theorem Move.answers {trace seen : List (Event ι)} {state after : State ι} (hr : Replies trace state)
    (hl : Ledger trace state) (hs : Sending trace state) (hm : Move state after seen) :
    AlwaysFrom Answers trace seen := by
  cases hm with
  | @Answered id reply hphase hslot =>
      obtain ⟨⟨_, command⟩, rfl, hended⟩ := hr.sent id reply hslot
      have hmem := hl.began_prefix.subset (mem_began_of_ended hl hended)
      exact ⟨⟨command, hs.own _ hmem, hended⟩, trivial⟩
  | Passed _ _ _ _ hseen =>
      rcases hseen with rfl | rfl
      · trivial
      · exact ⟨trivial, trivial⟩
  | Aside | Reserved | Taken | Replied => trivial
  | _ => exact ⟨trivial, trivial⟩

theorem run_answers {guard : List (Event ι) → State ι → Label ι → Prop} {capacity : Nat}
    {trace : List (Event ι)} {last : State ι}
    (hrun : Run machine guard (.new capacity) trace last) : Always Answers trace :=
  hrun.invariant_with (fun trace state => Replies trace state ∧ Ledger trace state ∧ Sending trace state)
    (fun trace _ => Always Answers trace) (fun _ _ h => ⟨run_replies h, run_ledger h, run_sending h⟩)
    (always_nil _) fun _ _ _ _ _ h halways _ hstep =>
      halways.append ((step_move hstep).answers h.1 h.2.1 h.2.2)

-- A future that returns an error returns SessionClosed, and its command never executes.
def Refuses (trace : List (Event ι)) : Prop :=
  ∀ id error, .Returned id (.error error) ∈ trace →
    error = .SessionClosed ∧ ∀ entry ∈ began trace, entry.id ≠ id

theorem commands_served {capacity : Nat} {trace : List (Event ι)} {last : State ι}
    (hrun : Reaches machine (.new capacity) trace last) :
    began trace <+: enqueued trace ∧ ((enqueued trace).map Entry.id).Nodup ∧ Always Serial trace ∧
      Always Answers trace ∧ Refuses trace := by
  have hl := run_ledger hrun
  have hs := run_sending hrun
  have hr := run_replies hrun
  refine ⟨hl.began_prefix, hs.nodup, run_serial hrun, run_answers hrun, ?_⟩
  intro id error hmem
  obtain ⟨herror, hclosed⟩ := hr.refused id error hmem
  exact ⟨herror, fun entry hbegan => hr.not_began hl hs hclosed hbegan⟩

end Replies

-- The token is cancelled while a check executes; the query behind it goes with
-- the receiver, and one that comes too late finds the channel closed.
def cancelledDuring : List (Label Unit) :=
  [.Clone 0, .Call 0 (.StartCertCheck "certificate" "key" none), .Poll 0, .Poll 0, .Drive .Command,
    .Begin, .Call 1 .ConnectionInfo, .Poll 1, .Poll 1, .Cancel, .Finish (.Status (.ok ())),
    .Drive .Command, .Poll 0, .Drive .Cancelled, .Join, .Drive .Joined, .Drive .Joined,
    .Drive .Joined, .Drive .Joined, .Call 1 .Statistics, .Poll 2, .Drive .Joined, .Poll 1]

theorem commands_served_cancelled : ∃ trace last,
    Reaches machine (State.new 1 : State Unit) trace last ∧
      (.Returned 0 (.ok (.Status (.ok ()))) ∈ trace ∧ .Returned 1 (.error .SessionClosed) ∈ trace ∧
        .Returned 2 (.error .SessionClosed) ∈ trace ∧ enqueued trace = began trace ++ [⟨1, .ConnectionInfo⟩]) ∧
      Refuses trace := by
  obtain ⟨trace, last, hrun, hreturned⟩ : ∃ trace last,
      Reaches machine (State.new 1 : State Unit) trace last ∧
        (.Returned 0 (.ok (.Status (.ok ()))) ∈ trace ∧ .Returned 1 (.error .SessionClosed) ∈ trace ∧
          .Returned 2 (.error .SessionClosed) ∈ trace ∧ enqueued trace = began trace ++ [⟨1, .ConnectionInfo⟩]) :=
    exists_run cancelledDuring (by decide)
  exact ⟨trace, last, hrun, hreturned, (commands_served hrun).2.2.2.2⟩

end OpenvpnConnect.Commands
