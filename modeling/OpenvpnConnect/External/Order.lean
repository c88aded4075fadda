import Mathlib.Data.List.Sort
import OpenvpnConnect.External.Delivery

namespace OpenvpnConnect.External

open Transition

section Calls

variable {κ η ρ : Type} [DecidableEq κ]

def Event.submits (client : κ) : Event κ η ρ → Option (Ticket η)
  | .Invoked _ other id _ => if other = client then some id else none
  | _ => none

-- The calls on handles of a client, in the order in which they are made.
def submitted (client : κ) (trace : List (Event κ η ρ)) : List (Ticket η) :=
  trace.filterMap (Event.submits client)

-- What is known of the calls that have been made.
structure Known (trace : List (Event κ η ρ)) (state : State κ η ρ) : Prop where
  numbers : ∀ thread client id call, .Invoked thread client id call ∈ trace →
    id.thread = thread ∧ id.number < state.calls ∧ (state.client client).built
  handles : ∀ client, 0 < (state.client client).handles → (state.client client).built
  sorted : ∀ client, (submitted client trace).Pairwise fun first second => first.number < second.number
  posting : EveryFrame (fun thread frame => ∀ client id call method,
    (frame = .Waiting client (.Post id call method) ∨ frame = .Inside client (.Post id call method)) →
      .Invoked thread client id call ∈ trace) state
  accepted : ∀ client, ∀ entry ∈ accepted client trace, ∃ call,
    .Invoked entry.1.thread client entry.1 call ∈ trace ∧ call.operation = .Post entry.2

theorem mem_submitted {client : κ} {id : Ticket η} {trace : List (Event κ η ρ)} :
    id ∈ submitted client trace ↔ ∃ thread call, .Invoked thread client id call ∈ trace := by
  constructor
  · intro hmem
    obtain ⟨event, hevent, he⟩ := List.mem_filterMap.mp hmem
    cases event with
    | Invoked thread other number call =>
        obtain ⟨rfl, hid⟩ := Option.ite_none_right_eq_some.mp he
        obtain rfl := Option.some.inj hid
        exact ⟨thread, call, hevent⟩
    | _ => cases he
  · rintro ⟨thread, call, hmem⟩
    exact List.mem_filterMap.mpr ⟨_, hmem, if_pos rfl⟩

theorem State.built_setClient {state : State κ η ρ} {client other : κ} {value : Client η ρ}
    (hvalue : (state.client client).built → value.built) (hb : (state.client other).built) :
    ((state.setClient client value).client other).built := by
  rw [State.client_setClient]
  split
  · rename_i he
    exact hvalue (he ▸ hb)
  · exact hb

theorem State.handles_setClient {state : State κ η ρ} {client : κ} {value : Client η ρ}
    (hhandles : ∀ other, 0 < (state.client other).handles → (state.client other).built)
    (hvalue : 0 < value.handles → value.built) (other : κ)
    (hlt : 0 < ((state.setClient client value).client other).handles) :
    ((state.setClient client value).client other).built := by
  rw [State.client_setClient] at hlt ⊢
  split
  · rename_i he
    rw [if_pos he] at hlt
    exact hvalue hlt
  · rename_i he
    rw [if_neg he] at hlt
    exact hhandles other hlt

variable [DecidableEq η] {kind : κ → Kind}

-- A client stays built, and its handles come from its callbacks.
theorem Move.built {state after : State κ η ρ} {label : Label κ η ρ} {seen : List (Event κ η ρ)}
    {client : κ} (hm : Move kind state label after seen) (hb : (state.client client).built) :
    (after.client client).built := by
  cases hm with
  | Constructed => exact State.built_setClient (fun _ => rfl) hb
  | DestroyBegun | CallbackBegun | Cloned | Dropped | Locked | Posted | Inactive | ParentFetched
  | Reparented | Detached | QueryLeft | DispatchLeft => exact State.built_setClient (fun h => h) hb
  | _ => exact hb

theorem Known.handles_step {state after : State κ η ρ} {label : Label κ η ρ}
    {trace seen : List (Event κ η ρ)} (hk : Known trace state) (hl : Lifetime trace state)
    (hm : Move kind state label after seen) (client : κ)
    (hlt : 0 < (after.client client).handles) : (after.client client).built := by
  cases hm with
  | Constructed => exact State.handles_setClient hk.handles (fun _ => rfl) client hlt
  | CallbackBegun _ halive =>
      exact State.handles_setClient hk.handles (by exact fun _ => hl.alive_built halive) client hlt
  | Cloned _ hhandles | Dropped _ hhandles =>
      exact State.handles_setClient hk.handles (by exact fun _ => hk.handles _ hhandles) client hlt
  | DestroyBegun | Locked | Posted | Inactive | ParentFetched | Reparented | Detached | QueryLeft
  | DispatchLeft => exact State.handles_setClient hk.handles (by exact hk.handles _) client hlt
  | _ => exact hk.handles client hlt

theorem Move.invoked_known {state after : State κ η ρ} {label : Label κ η ρ}
    {seen : List (Event κ η ρ)} {thread : Thread η} {client : κ} {id : Ticket η} {call : Call}
    (hm : Move kind state label after seen) (hmem : .Invoked thread client id call ∈ seen) :
    id = ⟨thread, state.calls⟩ ∧ after.calls = state.calls + 1 ∧
      0 < (state.client client).handles ∧ ∀ other, submitted other seen =
        if client = other then [id] else [] := by
  cases hm with
  | Refused _ hhandles | Invoked _ hhandles =>
      obtain ⟨rfl, rfl, rfl, rfl⟩ : _ ∧ _ ∧ _ ∧ _ := by simpa using hmem
      refine ⟨rfl, rfl, hhandles, fun other => ?_⟩
      by_cases he : client = other
      · simp [submitted, Event.submits, he]
      · simp [submitted, Event.submits, he]
  | _ => simp at hmem

-- An accepted call stands inside the section of its post.
theorem Move.accepts {state after : State κ η ρ} {label : Label κ η ρ} {seen : List (Event κ η ρ)}
    {client : κ} {entry : Entry η} (hm : Move kind state label after seen)
    (hmem : entry ∈ accepted client seen) : ∃ thread call rest,
      state.stack thread = .Inside client (.Post entry.1 call entry.2) :: rest := by
  cases hm with
  | @Dispatched thread other id call method rest hstack
  | @Posted thread other id call method rest _ hstack =>
      by_cases he : other = client
      · subst he
        obtain rfl : entry = (id, method) := by simpa [accepted, Event.accepts] using hmem
        exact ⟨thread, call, rest, hstack⟩
      · simp [accepted, Event.accepts, he] at hmem
  | _ => simp [accepted, Event.accepts] at hmem

theorem Known.step {state after : State κ η ρ} {label : Label κ η ρ}
    {trace seen : List (Event κ η ρ)} (hk : Known trace state) (hl : Lifetime trace state)
    (hp : Proper kind state) (hm : Move kind state label after seen) : Known (trace ++ seen) after := by
  have hcalls := hm.calls
  refine ⟨?_, fun client => hk.handles_step hl hm client, ?_, ?_, ?_⟩
  · intro thread client id call hmem
    rcases List.mem_append.mp hmem with hold | hnew
    · obtain ⟨hthread, hlt, hbuilt⟩ := hk.numbers thread client id call hold
      exact ⟨hthread, by omega, hm.built hbuilt⟩
    · obtain ⟨rfl, hafter, hhandles, -⟩ := hm.invoked_known hnew
      exact ⟨rfl, by rw [hafter]; exact Nat.lt_succ_self _, hm.built (hk.handles client hhandles)⟩
  · intro client
    rw [submitted, List.filterMap_append]
    refine List.pairwise_append.mpr ⟨hk.sorted client, ?_, ?_⟩
    · cases hseen : submitted client seen with
      | nil =>
          rw [submitted] at hseen
          rw [hseen]
          exact List.Pairwise.nil
      | cons id rest =>
          obtain ⟨thread, call, hmem⟩ := mem_submitted.mp (hseen ▸ List.mem_cons_self)
          have hone := (hm.invoked_known hmem).2.2.2 client
          rw [if_pos rfl, submitted] at hone
          rw [hone]
          exact List.pairwise_singleton _ _
    · intro first hfirst second hsecond
      obtain ⟨thread, call, hmem⟩ := mem_submitted.mp hfirst
      obtain ⟨other, next, hnew⟩ := mem_submitted.mp hsecond
      obtain ⟨rfl, -⟩ := hm.invoked_known hnew
      exact (hk.numbers thread client first call hmem).2.1
  · have hposting := hk.posting.imp fun _ _ h client id call method he =>
      List.mem_append_left seen (h client id call method he)
    apply hm.everyFrame hposting
    intro thread frame hnew client id call method he
    cases hnew with
    | Post =>
        rcases he with he | he
        · cases he
          cases hm with
          | Refused | Invoked => exact List.mem_append_right _ List.mem_cons_self
        · cases he
    | Lock hwait =>
        rcases he with he | he
        · cases he
        · cases he
          exact hposting thread _ hwait client id call method (.inl rfl)
    | Dispatch _ _ _ hframe =>
        rcases hframe with rfl | rfl
        · rcases he with he | he <;> cases he
        · rcases he with he | he <;> cases he
    | _ => rcases he with he | he <;> cases he
  · intro client entry hmem
    rw [accepted_append] at hmem
    rcases List.mem_append.mp hmem with hold | hnew
    · obtain ⟨call, hcall, hpost⟩ := hk.accepted client entry hold
      exact ⟨call, List.mem_append_left _ hcall, hpost⟩
    · obtain ⟨thread, call, rest, hstack⟩ := hm.accepts hnew
      have hinside := (mem_stack_of_tail hstack).1
      have hproper := hp.frames thread _ hinside
      refine ⟨call, List.mem_append_left _ ?_, hproper.2.1⟩
      rw [hproper.2.2]
      exact hk.posting thread _ hinside client entry.1 call entry.2 (.inr rfl)

omit [DecidableEq η] in
theorem known_new : Known [] (.new : State κ η ρ) where
  numbers := fun _ _ _ _ hmem => by cases hmem
  handles := fun _ hlt => by cases hlt
  sorted := fun _ => List.Pairwise.nil
  posting := everyFrame_new _
  accepted := fun _ _ hmem => by cases hmem

theorem run_known {guard : List (Event κ η ρ) → State κ η ρ → Label κ η ρ → Prop}
    {trace : List (Event κ η ρ)} {last : State κ η ρ}
    (hrun : Run (machine kind) guard .new trace last) : Known trace last :=
  hrun.invariant_with (fun trace state => Lifetime trace state ∧ Proper kind state) Known
    (fun _ _ h => ⟨run_lifetime h, run_proper h⟩) known_new
    fun _ _ _ _ _ h hk _ hstep => hk.step h.1 h.2 (step_move hstep)

end Calls

section Thread

variable {κ η ρ : Type} [DecidableEq κ] [DecidableEq η] {kind : κ → Kind}

def Event.enters (client : κ) (thread : Thread η) : Event κ η ρ → Option (Ticket η)
  | .Entered _ other _ id _ => if other = client ∧ id.thread = thread then some id else none
  | _ => none

-- The calls of a thread whose delivery has begun.
def delivered (client : κ) (thread : Thread η) (trace : List (Event κ η ρ)) : List (Ticket η) :=
  trace.filterMap (Event.enters client thread)

-- A TUN has no queries, so what enters its parent is settled.
def Settles (kind : κ → Kind) (trace : List (Event κ η ρ)) : Prop :=
  ∀ thread client parent id method, .Entered thread client parent id method ∈ trace →
    kind client = .Tun → method.asks = false

theorem run_settles {guard : List (Event κ η ρ) → State κ η ρ → Label κ η ρ → Prop}
    {trace : List (Event κ η ρ)} {last : State κ η ρ}
    (hrun : Run (machine kind) guard .new trace last) : Settles kind trace := by
  refine hrun.invariant_with (fun _ state => Proper kind state) (fun trace _ => Settles kind trace)
    (fun _ _ h => run_proper h) (by intro _ _ _ _ _ hmem; cases hmem) ?_
  intro trace before label after seen hp hsettles _ hstep thread client parent id method hmem hkind
  rcases List.mem_append.mp hmem with hold | hnew
  · exact hsettles thread client parent id method hold hkind
  · cases step_move hstep with
    | @Queried actor other ticket call ask rest _ hstack =>
        obtain ⟨rfl, rfl, rfl, rfl, rfl⟩ : _ ∧ _ ∧ _ ∧ _ ∧ _ := by simpa using hnew
        have hquery := hp.frames _ _ (mem_stack_of_tail hstack).1
        have hcall := (Call.query_transport hquery.2).1
        rw [hquery.1, hkind] at hcall
        cases hcall
    | @ParentEntered actor other ticket ask _ rest hstack =>
        obtain ⟨rfl, rfl, rfl, rfl, rfl⟩ : _ ∧ _ ∧ _ ∧ _ ∧ _ := by simpa using hnew
        exact hp.frames _ _ (mem_stack_of_tail hstack).1
    | _ => simp at hnew

theorem settled_ascending {trace : List (Event κ η ρ)} {state : State κ η ρ}
    (hs : Submitted kind trace state) (client : κ) :
    (settled client trace).Pairwise fun first second => earlier first.1 second.1 := by
  have hway : ∀ around, (way kind client around (settled client trace)).Pairwise
      fun first second => earlier first.1 second.1 := by
    intro around
    have hflow := hs.flow client around
    rw [way_append] at hflow
    have haccepted : (way kind client around (accepted client trace)).Pairwise
        fun first second => earlier first.1 second.1 := (hs.ascending.ascending client).filter _
    rw [hflow] at haccepted
    exact (List.pairwise_append.mp haccepted).1
  have haround := List.pairwise_filter.mp (hway true)
  have hqueued := List.pairwise_filter.mp (hway false)
  -- two calls of one thread go the same way
  refine (haround.and hqueued).imp ?_
  intro first second h hthread
  have hsame : direct kind client first = direct kind client second := by
    simp only [direct, hthread]
  cases hdirect : direct kind client first with
  | true => exact h.1 (by simp [hdirect]) (by simp [← hsame, hdirect]) hthread
  | false => exact h.2 (by simp [hdirect]) (by simp [← hsame, hdirect]) hthread

omit [DecidableEq η] in
theorem mem_settled_of_entered {trace : List (Event κ η ρ)} {thread : Thread η} {client : κ}
    {parent : ρ} {id : Ticket η} {method : Method} (hs : Settles kind trace)
    (hkind : kind client = .Tun) (hmem : .Entered thread client parent id method ∈ trace) :
    Event.settles client (.Entered thread client parent id method : Event κ η ρ) = some (id, method) :=
  if_pos ⟨rfl, hs thread client parent id method hmem hkind⟩

theorem delivered_ascending {trace : List (Event κ η ρ)} {state : State κ η ρ} {client : κ}
    (hs : Submitted kind trace state) (hsettles : Settles kind trace) (hkind : kind client = .Tun)
    (thread : Thread η) :
    (delivered client thread trace).Pairwise fun first second => first.number < second.number := by
  refine List.pairwise_filterMap.mpr ?_
  refine List.Pairwise.imp_of_mem ?_ (List.pairwise_filterMap.mp (settled_ascending hs client))
  intro first second hfirst hsecond h id hid other hother
  cases first with
  | Entered actor target parent id method =>
      cases second with
      | Entered actor' target' parent' other' method' =>
          obtain ⟨⟨rfl, hthread⟩, he⟩ := Option.ite_none_right_eq_some.mp hid
          obtain ⟨⟨rfl, hthread'⟩, he'⟩ := Option.ite_none_right_eq_some.mp hother
          obtain rfl := Option.some.inj he
          obtain rfl := Option.some.inj he'
          exact h _ (mem_settled_of_entered hsettles hkind hfirst) _
            (mem_settled_of_entered hsettles hkind hsecond) (hthread.trans hthread'.symm)
      | _ => cases hother
  | _ => cases hid

theorem mem_accepted_of_settled {trace : List (Event κ η ρ)} {state : State κ η ρ} {client : κ}
    {entry : Entry η} (hs : Submitted kind trace state) (hmem : entry ∈ settled client trace) :
    entry ∈ accepted client trace := by
  have hflow := hs.flow client (direct kind client entry)
  rw [way_append] at hflow
  have hway : entry ∈ way kind client (direct kind client entry) (accepted client trace) := by
    rw [hflow]
    exact List.mem_append_left _ (List.mem_filter.mpr ⟨hmem, by simp⟩)
  exact (List.mem_filter.mp hway).1

-- What is delivered on a TUN was called before.
theorem invoked_of_entered {trace : List (Event κ η ρ)} {state : State κ η ρ} {thread : Thread η}
    {client : κ} {parent : ρ} {id : Ticket η} {method : Method} (hs : Submitted kind trace state)
    (hk : Known trace state) (hsettles : Settles kind trace) (hkind : kind client = .Tun)
    (hmem : .Entered thread client parent id method ∈ trace) :
    ∃ call, .Invoked id.thread client id call ∈ trace ∧ call.operation = .Post method := by
  have hsettled : (id, method) ∈ settled client trace :=
    List.mem_filterMap.mpr ⟨_, hmem, mem_settled_of_entered hsettles hkind hmem⟩
  exact hk.accepted client _ (mem_accepted_of_settled hs hsettled)

-- Of each thread, the deliveries begin in the order of its calls.
theorem delivered_sublist {trace : List (Event κ η ρ)} {state : State κ η ρ} {client : κ}
    (hs : Submitted kind trace state) (hk : Known trace state) (hsettles : Settles kind trace)
    (hkind : kind client = .Tun) (thread : Thread η) :
    (delivered client thread trace).Sublist (submitted client trace) := by
  have hascending := delivered_ascending hs hsettles hkind thread
  have hnodup : (delivered client thread trace).Nodup := by
    refine hascending.imp ?_
    rintro first second hlt rfl
    exact Nat.lt_irrefl _ hlt
  have hsubset : delivered client thread trace ⊆ submitted client trace := by
    intro id hmem
    obtain ⟨event, hevent, he⟩ := List.mem_filterMap.mp hmem
    cases event with
    | Entered actor target parent number method =>
        obtain ⟨⟨rfl, -⟩, hid⟩ := Option.ite_none_right_eq_some.mp he
        obtain rfl := Option.some.inj hid
        obtain ⟨call, hcall, -⟩ := invoked_of_entered hs hk hsettles hkind hevent
        exact mem_submitted.mpr ⟨_, call, hcall⟩
    | _ => cases he
  have hantisymm : Std.Antisymm fun first second : Ticket η => first.number < second.number :=
    ⟨fun _ _ hlt hgt => absurd hlt (Nat.lt_asymm hgt)⟩
  exact List.sublist_of_subperm_of_pairwise (List.subperm_of_subset hnodup hsubset) hascending
    (hk.sorted client)

end Thread

end OpenvpnConnect.External
