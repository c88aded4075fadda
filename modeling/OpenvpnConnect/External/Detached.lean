import OpenvpnConnect.External.Lifetime

namespace OpenvpnConnect.External

open Transition

section Tickets

variable {κ η ρ : Type}

def Section.ticket : Section η ρ → Option (Ticket η)
  | .Post id .. | .Query id .. | .Fetch id _ => some id
  | .Reparent _ | .Detach => none

def Frame.ticket : Frame κ η ρ → Option (Ticket η)
  | .Waiting _ todo | .Inside _ todo => todo.ticket
  | .Fetched _ id .. | .Parent _ _ id _ | .Queried _ _ id .. | .Dispatching _ id _ => some id
  | .Callback .. | .Joining _ => none

-- The tickets in use are older than the next one.
structure Numbered (state : State κ η ρ) : Prop where
  frames : EveryFrame (fun _ frame => ∀ id ∈ frame.ticket, id.number < state.calls) state
  queued : ∀ closure ∈ state.queue, closure.id.number < state.calls

variable [DecidableEq κ] [DecidableEq η] {kind : κ → Kind}

theorem Move.calls {state after : State κ η ρ} {label : Label κ η ρ} {seen : List (Event κ η ρ)}
    (hm : Move kind state label after seen) :
    after.calls = state.calls ∨ after.calls = state.calls + 1 := by
  cases hm with
  | Refused | Invoked => exact .inr rfl
  | _ => exact .inl rfl

-- The tickets of a step are in use before it, or the call is just made.
theorem Enters.number {state after : State κ η ρ} {label : Label κ η ρ} {seen : List (Event κ η ρ)}
    {thread : Thread η} {frame : Frame κ η ρ} (hn : Numbered state)
    (hm : Move kind state label after seen) (hnew : Enters kind state label thread frame) :
    ∀ id ∈ frame.ticket, id.number < after.calls := by
  have hcalls := hm.calls
  intro id hid
  cases hnew with
  | Reparent | Detach | Callback | Join => cases hid
  | Execute hmem =>
      obtain rfl := Option.some.inj hid
      have hlt := hn.queued _ hmem
      omega
  | Post | Query =>
      obtain rfl := Option.some.inj hid
      cases hm
      · simp_all
      · exact Nat.lt_succ_self _
  | Lock hmem =>
      have hlt := hn.frames thread _ hmem id hid
      omega
  | Dispatch hstack _ _ hframe =>
      rcases hframe with rfl | rfl
      · have hlt := hn.frames thread _ (mem_stack_of_tail hstack).1 id hid
        omega
      · have hlt := hn.frames thread _ (mem_stack_of_tail hstack).1 id hid
        omega
  | Queried hstack =>
      have hlt := hn.frames thread _ (mem_stack_of_tail hstack).1 id hid
      omega
  | Fetched hmem | Parent hmem =>
      have hlt := hn.frames thread _ hmem id hid
      omega

theorem Numbered.step {state after : State κ η ρ} {label : Label κ η ρ}
    {seen : List (Event κ η ρ)} (hn : Numbered state) (hm : Move kind state label after seen) :
    Numbered after := by
  have hcalls := hm.calls
  constructor
  · have hframes := hn.frames.imp fun _ frame h id hid =>
      Nat.lt_of_lt_of_le (h id hid) (show state.calls ≤ after.calls by omega)
    exact hm.everyFrame hframes fun _ _ hnew => hnew.number hn hm
  · intro closure hmem
    have hold : ∀ other ∈ state.queue, other.id.number < after.calls := by
      intro other hother
      have hlt := hn.queued other hother
      omega
    cases hm with
    | Executed _ hqueue => exact hold closure (hqueue ▸ List.mem_cons_of_mem _ hmem)
    | Posted hstack =>
        rcases List.mem_append.mp hmem with hmem | hnew
        · exact hold closure hmem
        · obtain rfl := List.mem_singleton.mp hnew
          exact hn.frames _ _ (mem_stack_of_tail hstack).1 _ rfl
    | _ => exact hold closure hmem

theorem run_numbered {guard : List (Event κ η ρ) → State κ η ρ → Label κ η ρ → Prop}
    {trace : List (Event κ η ρ)} {last : State κ η ρ}
    (hrun : Run (machine kind) guard .new trace last) : Numbered last :=
  hrun.invariant (fun _ state => Numbered state)
    ⟨everyFrame_new _, fun _ hmem => by cases hmem⟩
    fun _ _ _ _ _ hn _ hstep => hn.step (step_move hstep)

-- A call is numbered when it is made.
theorem Move.invoked {state after : State κ η ρ} {label : Label κ η ρ} {seen : List (Event κ η ρ)}
    {thread : Thread η} {client : κ} {id : Ticket η} {call : Call}
    (hm : Move kind state label after seen) (hmem : .Invoked thread client id call ∈ seen) :
    id = ⟨thread, state.calls⟩ := by
  cases hm with
  | Refused | Invoked =>
      obtain ⟨rfl, rfl, rfl, rfl⟩ : _ ∧ _ ∧ _ ∧ _ := by simpa using hmem
      rfl
  | _ => simp at hmem

end Tickets

section Detached

variable {κ η ρ : Type}

-- The call was made after the destructor of the client had returned.
def Late (client : κ) (id : Ticket η) (trace : List (Event κ η ρ)) : Prop :=
  ∃ front back thread call, trace = front ++ .Invoked thread client id call :: back ∧
    .Destroyed client ∈ front

-- The frames of a call that has found its client active.
def Frame.admits : Frame κ η ρ → Option (κ × Ticket η)
  | .Queried client _ id .. | .Dispatching client id _ => some (client, id)
  | _ => none

theorem Late.destroyed {client : κ} {id : Ticket η} {trace : List (Event κ η ρ)}
    (hl : Late client id trace) : .Destroyed client ∈ trace := by
  obtain ⟨front, back, thread, call, rfl, hmem⟩ := hl
  exact List.mem_append_left _ hmem

theorem Late.of_append {client : κ} {id : Ticket η} {trace seen : List (Event κ η ρ)}
    (hl : Late client id (trace ++ seen)) :
    Late client id trace ∨ ∃ thread call, .Invoked thread client id call ∈ seen := by
  obtain ⟨front, back, thread, call, he, hmem⟩ := hl
  rcases split_append he with ⟨rest, htrace, -⟩ | ⟨before, hseen, -⟩
  · exact .inl ⟨front, rest, thread, call, htrace, hmem⟩
  · exact .inr ⟨thread, call, hseen ▸ List.mem_append_right _ List.mem_cons_self⟩

-- A late call finds its client inactive.
theorem Lifetime.not_late [DecidableEq κ] {trace : List (Event κ η ρ)} {state : State κ η ρ} {client : κ}
    {parent : ρ} {id : Ticket η} (hl : Lifetime trace state)
    (hparent : (state.client client).parent = some parent) : ¬Late client id trace := by
  intro hlate
  have hgone := (hl.gone client hlate.destroyed).2.2
  rw [hparent] at hgone
  cases hgone

theorem Client.active_parent {client : Client η ρ} (hactive : client.active) :
    ∃ parent, client.parent = some parent := by
  simp only [Client.active, Bool.and_eq_true] at hactive
  exact Option.isSome_iff_exists.mp hactive.2

theorem Frame.admits_ticket {frame : Frame κ η ρ} {client : κ} {id : Ticket η}
    (ha : frame.admits = some (client, id)) : id ∈ frame.ticket := by
  unfold admits at ha
  split at ha
  · obtain ⟨rfl, rfl⟩ := Prod.mk.inj (Option.some.inj ha)
    rfl
  · obtain ⟨rfl, rfl⟩ := Prod.mk.inj (Option.some.inj ha)
    rfl
  · cases ha

def Admitted (trace : List (Event κ η ρ)) (state : State κ η ρ) : Prop :=
  EveryFrame (fun _ frame => ∀ client id, frame.admits = some (client, id) → ¬Late client id trace)
    state

variable [DecidableEq κ] [DecidableEq η] {kind : κ → Kind}

theorem Admitted.step {state after : State κ η ρ} {label : Label κ η ρ}
    {trace seen : List (Event κ η ρ)} (ha : Admitted trace state) (hl : Lifetime trace state)
    (hn : Numbered state) (hm : Move kind state label after seen) : Admitted (trace ++ seen) after := by
  have hlate : ∀ client (id : Ticket η), id.number < state.calls → ¬Late client id trace →
      ¬Late client id (trace ++ seen) := by
    intro client id hlt hnot hlate
    rcases hlate.of_append with hold | ⟨thread, call, hmem⟩
    · exact hnot hold
    · obtain rfl := hm.invoked hmem
      exact Nat.lt_irrefl _ hlt
  refine hm.everyFrame (fun thread frame hmem => ?_) fun thread frame hnew => ?_
  · intro client id hid
    exact hlate client id (hn.frames thread frame hmem id (Frame.admits_ticket hid))
      (ha thread frame hmem client id hid)
  · intro client id hid
    cases hnew with
    | Dispatch hstack hactive _ hframe =>
        have hlt := hn.frames thread _ (mem_stack_of_tail hstack).1 _ rfl
        obtain ⟨parent, hparent⟩ := Client.active_parent hactive
        rcases hframe with rfl | rfl
        · cases hid
        · obtain ⟨rfl, rfl⟩ := Prod.mk.inj (Option.some.inj hid)
          exact hlate _ _ hlt (hl.not_late hparent)
    | Queried hstack hparent =>
        have hlt := hn.frames thread _ (mem_stack_of_tail hstack).1 _ rfl
        obtain ⟨rfl, rfl⟩ := Prod.mk.inj (Option.some.inj hid)
        exact hlate _ _ hlt (hl.not_late hparent)
    | _ => cases hid

theorem run_admitted {guard : List (Event κ η ρ) → State κ η ρ → Label κ η ρ → Prop}
    {trace : List (Event κ η ρ)} {last : State κ η ρ}
    (hrun : Run (machine kind) guard .new trace last) : Admitted trace last :=
  hrun.invariant_with (fun trace state => Lifetime trace state ∧ Numbered state) Admitted
    (fun _ _ h => ⟨run_lifetime h, run_numbered h⟩) (everyFrame_new _)
    fun _ _ _ _ _ h ha _ hstep => ha.step h.1 h.2 (step_move hstep)

-- After the destructor has returned nothing is accepted or delivered, and the
-- calls made from then on are answered as inactive.
def AfterDestroyed (front : List (Event κ η ρ)) : Event κ η ρ → Prop
  | .Entered _ client .. | .Accepted _ client .. => .Destroyed client ∉ front
  | .Answered _ client id call answer => Late client id front → answer = call.answer false .none
  | _ => True

theorem Move.afterDestroyed {state after : State κ η ρ} {label : Label κ η ρ}
    {trace seen : List (Event κ η ρ)} (ha : Admitted trace state) (hl : Lifetime trace state)
    (hm : Move kind state label after seen) : AlwaysFrom AfterDestroyed trace seen := by
  have hthere : ∀ {client parent}, (state.client client).parent = some parent →
      .Destroyed client ∉ trace := by
    intro client parent hparent hmem
    have hgone := (hl.gone client hmem).2.2
    rw [hparent] at hgone
    cases hgone
  cases hm with
  | Dispatched _ hactive =>
      obtain ⟨parent, hparent⟩ := Client.active_parent hactive
      exact ⟨hthere hparent, trivial⟩
  | @Posted thread client id call method _ _ _ hactive =>
      obtain ⟨parent, hparent⟩ := Client.active_parent hactive
      refine ⟨hthere hparent, ?_, trivial⟩
      intro hlate
      exact absurd (by simpa using hlate.destroyed) (hthere hparent)
  | Refused => exact ⟨trivial, fun _ => rfl, trivial⟩
  | Inactive => exact ⟨fun _ => rfl, trivial⟩
  | Queried _ hparent => exact ⟨hthere hparent, trivial⟩
  | ParentEntered hstack =>
      have hfetched := (hl.frames _ _ (mem_stack_of_tail hstack).1).2
      exact ⟨hthere hfetched.symm, trivial⟩
  | @QueryLeft thread client parent id call method _ _ _ hstack =>
      refine ⟨trivial, ?_, trivial⟩
      intro hlate
      rcases hlate.of_append with hold | ⟨_, _, hmem⟩
      · exact absurd hold (ha thread _ (mem_stack_of_tail hstack).1 client id rfl)
      · simp at hmem
  | @DispatchLeft thread client id call _ _ _ hstack =>
      refine ⟨?_, trivial⟩
      intro hlate
      exact absurd hlate (ha thread _ (mem_stack_of_tail hstack).1 client id rfl)
  | ReparentBegun | DestroyBegun | Executed | Cloned | Dropped | JoinBegun | Finished | Locked
  | ParentFetched | Joined => trivial
  | _ => exact ⟨trivial, trivial⟩

theorem TransportCall.answer_of_post {call : TransportCall} {method : Method}
    (hpost : call.operation = .Post method) (reply : Reply) :
    call.answer false reply = .Result (.error .SessionClosed) := by
  cases call <;> first | rfl | cases hpost

-- A posting method of a handle says so with SessionClosed.
theorem Call.answer_of_post {call : Call} {method : Method} (hpost : call.operation = .Post method)
    (reply : Reply) : call.answer false reply = .Result (.error .SessionClosed) := by
  cases call with
  | Transport call => exact TransportCall.answer_of_post hpost reply
  | Tun call => rfl

theorem run_afterDestroyed {guard : List (Event κ η ρ) → State κ η ρ → Label κ η ρ → Prop}
    {trace : List (Event κ η ρ)} {last : State κ η ρ}
    (hrun : Run (machine kind) guard .new trace last) : Always AfterDestroyed trace := by
  refine hrun.invariant_with (fun trace state => Lifetime trace state ∧ Admitted trace state)
    (fun trace _ => Always AfterDestroyed trace) (fun _ _ h => ⟨run_lifetime h, run_admitted h⟩)
    (always_nil _) ?_
  intro _ _ _ _ _ h halways _ hstep
  exact halways.append ((step_move hstep).afterDestroyed h.2 h.1)

-- Nothing is delivered after the destructor of a client, over every run.
theorem no_delivery_after_destroyed {trace : List (Event κ η ρ)} {last : State κ η ρ}
    (hrun : Reaches (machine kind) .new trace last) :
    Always AfterDestroyed trace ∧
      ∀ call method reply, Call.operation call = .Post method →
        call.answer false reply = .Result (.error .SessionClosed) :=
  ⟨run_afterDestroyed hrun, fun _ _ reply hpost => Call.answer_of_post hpost reply⟩

end Detached

-- A packet is accepted before the stop callback returns and one after it.
def outlives (call : Call) : List (Label Unit (Fin 1) (Fin 1)) :=
  [.Construct () 0, .Callback .Io () .Start, .Return .Io .none,
    .Invoke (.App 0) () call, .Lock (.App 0), .Run (.App 0),
    .Callback .Io () .Stop, .Return .Io .none,
    .Execute, .Lock .Io, .Run .Io, .Run .Io, .Return .Io .none,
    .Invoke (.App 0) () call, .Lock (.App 0), .Run (.App 0),
    .Execute, .Lock .Io, .Run .Io, .Run .Io]

def sinceStop (trace : List (Event Unit (Fin 1) (Fin 1))) : List (Event Unit (Fin 1) (Fin 1)) :=
  trace.dropWhile fun event => event ≠ .Ended .Io () .Stop

theorem delivery_after_stop :
    (∃ trace last, Reaches (machine fun _ => .Transport) (State.new : State Unit (Fin 1) (Fin 1))
      trace last ∧
        .Entered .Io () 0 ⟨.App 0, 0⟩ (.TransportRecv ⟨1, 0, [1]⟩) ∈ sinceStop trace ∧
        .Answered (.App 0) () ⟨.App 0, 1⟩ (.Transport (.Receive [1])) (.Result (.ok ())) ∈
          sinceStop trace ∧
        .Entered .Io () 0 ⟨.App 0, 1⟩ (.TransportRecv ⟨1, 0, [1]⟩) ∈ sinceStop trace) ∧
    ∃ trace last, Reaches (machine fun _ => .Tun) (State.new : State Unit (Fin 1) (Fin 1)) trace last ∧
      .Entered .Io () 0 ⟨.App 0, 0⟩ (.TunRecv ⟨2049, 1024, [1]⟩) ∈ sinceStop trace ∧
      .Answered (.App 0) () ⟨.App 0, 1⟩ (.Tun (.Receive [1])) (.Result (.ok ())) ∈ sinceStop trace ∧
      .Entered .Io () 0 ⟨.App 0, 1⟩ (.TunRecv ⟨2049, 1024, [1]⟩) ∈ sinceStop trace :=
  ⟨exists_run (outlives (.Transport (.Receive [1]))) (by decide),
    exists_run (outlives (.Tun (.Receive [1]))) (by decide)⟩

-- The client is destroyed with a packet queued, then a packet is refused.
def retained : List (Label Unit (Fin 1) (Fin 1)) :=
  [.Construct () 0, .Callback .Io () .Start, .Return .Io .none,
    .Invoke (.App 0) () (.Transport (.Receive [1])), .Lock (.App 0), .Run (.App 0),
    .Destroy (), .Lock .Io, .Run .Io, .Execute, .Lock .Io, .Run .Io, .Run .Io,
    .Invoke (.App 0) () (.Transport (.Receive [2])), .Lock (.App 0), .Run (.App 0)]

theorem no_delivery_after_destroyed_retained : ∃ trace last,
    Reaches (machine fun _ => .Transport) (State.new : State Unit (Fin 1) (Fin 1)) trace last ∧
      .Skipped () ⟨.App 0, 0⟩ (.TransportRecv ⟨1, 0, [1]⟩) ∈ trace ∧
      .Answered (.App 0) () ⟨.App 0, 1⟩ (.Transport (.Receive [2]))
        (.Result (.error .SessionClosed)) ∈ trace ∧
      Always AfterDestroyed trace := by
  obtain ⟨trace, last, hrun, hskipped, hanswered⟩ : ∃ trace last,
      Reaches (machine fun _ => .Transport) (State.new : State Unit (Fin 1) (Fin 1)) trace last ∧
        (.Skipped () ⟨.App 0, 0⟩ (.TransportRecv ⟨1, 0, [1]⟩) ∈ trace ∧
          .Answered (.App 0) () ⟨.App 0, 1⟩ (.Transport (.Receive [2]))
            (.Result (.error .SessionClosed)) ∈ trace) := exists_run retained (by decide)
  exact ⟨trace, last, hrun, hskipped, hanswered, (no_delivery_after_destroyed hrun).1⟩

end OpenvpnConnect.External
