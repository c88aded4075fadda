import OpenvpnConnect.External.Moves

namespace OpenvpnConnect.External

open Transition

section Frames

variable {κ η ρ : Type}

-- The frames that another frame can lie on.
def Frame.rests : Frame κ η ρ → Bool
  | .Parent .. | .Queried .. | .Dispatching .. | .Callback .. => true
  | _ => false

-- The frames that run a method of the parent.
def Frame.executes : Frame κ η ρ → Bool
  | .Parent .. | .Queried .. => true
  | _ => false

-- The frames that have locked the mutex of a client.
def Frame.locks [DecidableEq κ] (client : κ) : Frame κ η ρ → Bool
  | .Inside other _ | .Queried other .. | .Dispatching other .. => other = client
  | _ => false

def Section.ofIo : Section η ρ → Bool
  | .Fetch .. | .Reparent _ | .Detach => true
  | _ => false

-- The frames of posted closures and of Core's own calls.
def Frame.ofIo : Frame κ η ρ → Bool
  | .Waiting _ todo | .Inside _ todo => todo.ofIo
  | .Fetched .. | .Parent .. | .Dispatching .. => true
  | _ => false

def EveryFrame (inv : Thread η → Frame κ η ρ → Prop) (state : State κ η ρ) : Prop :=
  ∀ thread frame, frame ∈ state.stack thread → inv thread frame

theorem EveryFrame.imp {inv weaker : Thread η → Frame κ η ρ → Prop} {state : State κ η ρ}
    (he : EveryFrame inv state) (hle : ∀ thread frame, inv thread frame → weaker thread frame) :
    EveryFrame weaker state :=
  fun thread frame hmem => hle thread frame (he thread frame hmem)

theorem everyFrame_new (inv : Thread η → Frame κ η ρ → Prop) : EveryFrame inv .new := by
  intro thread frame hmem
  cases hmem

theorem mem_stack_of_tail {state : State κ η ρ} {thread : Thread η} {top : Frame κ η ρ}
    {rest : List (Frame κ η ρ)} (hstack : state.stack thread = top :: rest) :
    top ∈ state.stack thread ∧ ∀ frame ∈ rest, frame ∈ state.stack thread := by
  rw [hstack]
  exact ⟨List.mem_cons_self, fun frame hmem => List.mem_cons_of_mem top hmem⟩

theorem EveryFrame.goto [DecidableEq η] {inv : Thread η → Frame κ η ρ → Prop}
    {state after : State κ η ρ} {thread : Thread η} {frames : List (Frame κ η ρ)}
    (he : EveryFrame inv state) (hstack : after.stack = (state.goto thread frames).stack)
    (hframes : ∀ frame ∈ frames, frame ∈ state.stack thread ∨ inv thread frame) :
    EveryFrame inv after := by
  intro other frame hmem
  rw [hstack, State.stack_goto] at hmem
  split at hmem
  · rename_i heq
    subst heq
    exact (hframes frame hmem).elim (he other frame) id
  · exact he other frame hmem

theorem EveryFrame.replace [DecidableEq η] {inv : Thread η → Frame κ η ρ → Prop}
    {state after : State κ η ρ} {thread : Thread η} {frames : List (Frame κ η ρ)}
    (hothers : ∀ other, other ≠ thread → ∀ frame ∈ state.stack other, inv other frame)
    (hstack : after.stack = (state.goto thread frames).stack)
    (hframes : ∀ frame ∈ frames, inv thread frame) : EveryFrame inv after := by
  intro other frame hmem
  rw [hstack, State.stack_goto] at hmem
  split at hmem
  · rename_i heq
    subst heq
    exact hframes frame hmem
  · rename_i hne
    exact hothers other hne frame hmem

variable [DecidableEq κ] [DecidableEq η]

-- The frames that a step puts on the stack of its thread.
inductive Enters (kind : κ → Kind) (state : State κ η ρ) :
    Label κ η ρ → Thread η → Frame κ η ρ → Prop
  | Reparent {client : κ} {parent : ρ} : (state.client client).alive →
      Enters kind state (.Reparent client parent) .Io (.Waiting client (.Reparent parent))
  | Detach {client : κ} : (state.client client).alive →
      Enters kind state (.Destroy client) .Io (.Waiting client .Detach)
  | Callback {thread : Thread η} {client : κ} {callback : Callback} :
      Enters kind state (.Callback thread client callback) thread (.Callback client callback)
  | Execute {closure : Closure κ η} : closure ∈ state.queue →
      Enters kind state .Execute .Io (.Waiting closure.client (.Fetch closure.id closure.method))
  | Post {thread : Thread η} {client : κ} {call : Call} {method : Method} :
      call.kind = kind client → call.operation = .Post method →
      Enters kind state (.Invoke thread client call) thread
        (.Waiting client (.Post ⟨thread, state.calls⟩ call method))
  | Query {thread : Thread η} {client : κ} {call : Call} {method : Method} :
      call.kind = kind client → call.operation = .Query method →
      Enters kind state (.Invoke thread client call) thread
        (.Waiting client (.Query ⟨thread, state.calls⟩ call method))
  | Join {thread : Thread η} {reader : η} :
      Enters kind state (.Join thread reader) thread (.Joining reader)
  | Lock {thread : Thread η} {client : κ} {todo : Section η ρ} :
      .Waiting client todo ∈ state.stack thread →
      Enters kind state (.Lock thread) thread (.Inside client todo)
  | Dispatch {thread : Thread η} {client : κ} {id : Ticket η} {call : Call} {method : Method}
      {rest : List (Frame κ η ρ)} {frame : Frame κ η ρ} :
      state.stack thread = .Inside client (.Post id call method) :: rest →
      (state.client client).active → inline (kind client) thread →
      (frame = .Waiting client (.Fetch id method) ∨ frame = .Dispatching client id call) →
      Enters kind state (.Run thread) thread frame
  | Queried {thread : Thread η} {client : κ} {id : Ticket η} {call : Call} {method : Method}
      {rest : List (Frame κ η ρ)} {parent : ρ} :
      state.stack thread = .Inside client (.Query id call method) :: rest →
      (state.client client).parent = some parent →
      Enters kind state (.Run thread) thread (.Queried client parent id call method)
  | Fetched {thread : Thread η} {client : κ} {id : Ticket η} {method : Method} :
      .Inside client (.Fetch id method) ∈ state.stack thread →
      Enters kind state (.Run thread) thread
        (.Fetched client id method (state.client client).parent)
  | Parent {thread : Thread η} {client : κ} {id : Ticket η} {method : Method} {parent : ρ} :
      .Fetched client id method (some parent) ∈ state.stack thread →
      Enters kind state (.Run thread) thread (.Parent client parent id method)

-- An invariant of all frames is kept by a step when the entered ones have it.
theorem Move.everyFrame {kind : κ → Kind} {state after : State κ η ρ} {label : Label κ η ρ}
    {seen : List (Event κ η ρ)} {inv : Thread η → Frame κ η ρ → Prop}
    (hm : Move kind state label after seen) (he : EveryFrame inv state)
    (hnew : ∀ thread frame, Enters kind state label thread frame → inv thread frame) :
    EveryFrame inv after := by
  have hpush : ∀ thread frame, inv thread frame → ∀ other ∈ frame :: state.stack thread,
      other ∈ state.stack thread ∨ inv thread other := by
    intro thread frame hframe other hmem
    rcases List.mem_cons.mp hmem with rfl | hmem
    · exact .inr hframe
    · exact .inl hmem
  have hpop : ∀ {thread top rest}, state.stack thread = top :: rest → ∀ other ∈ rest,
      other ∈ state.stack thread ∨ inv thread other :=
    fun hstack other hmem => .inl ((mem_stack_of_tail hstack).2 other hmem)
  have hswap : ∀ {thread top rest} frame, state.stack thread = top :: rest → inv thread frame →
      ∀ other ∈ frame :: rest, other ∈ state.stack thread ∨ inv thread other := by
    intro thread top rest frame hstack hframe other hmem
    rcases List.mem_cons.mp hmem with rfl | hmem
    · exact .inr hframe
    · exact hpop hstack other hmem
  cases hm with
  | Constructed | Refused | Cloned | Dropped | Finished => exact he
  | ReparentBegun _ halive => exact he.goto rfl (hpush _ _ (hnew _ _ (.Reparent halive)))
  | DestroyBegun _ halive => exact he.goto rfl (hpush _ _ (hnew _ _ (.Detach halive)))
  | CallbackBegun => exact he.goto rfl (hpush _ _ (hnew _ _ .Callback))
  | Executed hidle hqueue =>
      exact he.goto rfl (hpush _ _ (hnew _ _ (.Execute (hqueue ▸ List.mem_cons_self))))
  | Invoked _ _ hkind htodo =>
      rcases htodo with ⟨method, ho, rfl⟩ | ⟨method, ho, rfl⟩
      · exact he.goto rfl (hpush _ _ (hnew _ _ (.Post hkind ho)))
      · exact he.goto rfl (hpush _ _ (hnew _ _ (.Query hkind ho)))
  | JoinBegun => exact he.goto rfl (hpush _ _ (hnew _ _ .Join))
  | Locked hstack =>
      exact he.goto rfl (hswap _ hstack (hnew _ _ (.Lock (mem_stack_of_tail hstack).1)))
  | Dispatched hstack hactive hinline =>
      refine he.goto rfl ?_
      intro other hmem
      rcases List.mem_cons.mp hmem with rfl | hmem
      · exact .inr (hnew _ _ (.Dispatch hstack hactive hinline (.inl rfl)))
      · exact hswap _ hstack (hnew _ _ (.Dispatch hstack hactive hinline (.inr rfl))) other hmem
  | Inactive hstack =>
      rcases hstack with ⟨hstack, -⟩ | ⟨hstack, -⟩
      · exact he.goto rfl (hpop hstack)
      · exact he.goto rfl (hpop hstack)
  | Queried hstack hparent =>
      exact he.goto rfl (hswap _ hstack (hnew _ _ (.Queried hstack hparent)))
  | ParentFetched hstack =>
      exact he.goto rfl (hswap _ hstack (hnew _ _ (.Fetched (mem_stack_of_tail hstack).1)))
  | ParentEntered hstack =>
      exact he.goto rfl (hswap _ hstack (hnew _ _ (.Parent (mem_stack_of_tail hstack).1)))
  | Posted hstack | Reparented hstack | Detached hstack | Skipped hstack | ParentLeft hstack
  | QueryLeft hstack | DispatchLeft hstack | CallbackLeft hstack | Joined hstack =>
      exact he.goto rfl (hpop hstack)

-- The frames of Core are on the I/O thread.
theorem Move.ofIo {kind : κ → Kind} {state after : State κ η ρ} {label : Label κ η ρ}
    {seen : List (Event κ η ρ)} (hm : Move kind state label after seen)
    (he : EveryFrame (fun thread frame => frame.ofIo → thread = .Io) state) :
    EveryFrame (fun thread frame => frame.ofIo → thread = .Io) after := by
  apply hm.everyFrame he
  intro thread frame hnew hio
  cases hnew with
  | Reparent | Detach | Execute => rfl
  | Callback | Post | Query | Join | Queried => cases hio
  | Lock hmem => exact he thread _ hmem hio
  | Dispatch _ _ hinline => exact hinline.2
  | Fetched hmem => exact he thread _ hmem rfl
  | Parent hmem => exact he thread _ hmem rfl

end Frames

section Rests

variable {κ η ρ : Type}

def Rested (state : State κ η ρ) : Prop :=
  ∀ thread, ∀ frame ∈ (state.stack thread).tail, frame.rests

theorem Rested.tail {state : State κ η ρ} (hr : Rested state) {thread : Thread η}
    {top : Frame κ η ρ} {rest : List (Frame κ η ρ)} (hstack : state.stack thread = top :: rest) :
    ∀ frame ∈ rest, frame.rests := by
  have htail := hr thread
  rwa [hstack] at htail

theorem Rested.all {state : State κ η ρ} (hr : Rested state) {thread : Thread η}
    (htop : ∀ top ∈ (state.stack thread).head?, top.rests) :
    ∀ frame ∈ state.stack thread, frame.rests := by
  intro frame hmem
  cases hframes : state.stack thread with
  | nil => simp [hframes] at hmem
  | cons top rest =>
      rw [hframes] at hmem
      rcases List.mem_cons.mp hmem with rfl | hmem
      · exact htop frame (by simp [hframes])
      · exact hr.tail hframes frame hmem

theorem State.inCore_top {state : State κ η ρ} {thread : Thread η} (hcore : state.inCore thread) :
    ∀ top ∈ (state.stack thread).head?, top.rests := by
  unfold State.inCore at hcore
  split at hcore
  · simp [*]
  · simp [*, Frame.rests]
  · simp [*, Frame.rests]
  · cases hcore

theorem State.inApp_top {state : State κ η ρ} {thread : Thread η} (happ : state.inApp thread) :
    ∀ top ∈ (state.stack thread).head?, top.rests := by
  unfold State.inApp at happ
  split at happ
  · simp [*]
  · simp [*, Frame.rests]
  · cases happ

variable [DecidableEq η]

theorem Rested.goto {state after : State κ η ρ} {thread : Thread η} {frames : List (Frame κ η ρ)}
    (hr : Rested state) (hstack : after.stack = (state.goto thread frames).stack)
    (hframes : ∀ frame ∈ frames.tail, frame.rests) : Rested after := by
  intro other frame hmem
  rw [hstack, State.stack_goto] at hmem
  split at hmem
  · exact hframes frame hmem
  · exact hr other frame hmem

theorem Rested.pop {state after : State κ η ρ} {thread : Thread η} {top : Frame κ η ρ}
    {rest : List (Frame κ η ρ)} (hr : Rested state) (htop : state.stack thread = top :: rest)
    (hstack : after.stack = (state.goto thread rest).stack) : Rested after :=
  hr.goto hstack fun frame hmem => hr.tail htop frame (List.mem_of_mem_tail hmem)

theorem Rested.push {state after : State κ η ρ} {thread : Thread η} {next : Frame κ η ρ}
    (hr : Rested state) (htop : ∀ top ∈ (state.stack thread).head?, top.rests)
    (hstack : after.stack = (state.push thread next).stack) : Rested after :=
  hr.goto hstack (hr.all htop)

variable [DecidableEq κ]

theorem Move.rested {kind : κ → Kind} {state after : State κ η ρ} {label : Label κ η ρ}
    {seen : List (Event κ η ρ)} (hm : Move kind state label after seen) (hr : Rested state) :
    Rested after := by
  cases hm with
  | Constructed | Refused | Cloned | Dropped | Finished => exact hr
  | ReparentBegun hcore | DestroyBegun hcore | CallbackBegun hcore =>
      exact hr.push (State.inCore_top hcore) rfl
  | Invoked happ => exact hr.push (State.inApp_top happ) rfl
  | Executed hidle => exact hr.push (by simp [hidle]) rfl
  | JoinBegun hstack => exact hr.push (by simp [hstack, Frame.rests]) rfl
  | Locked hstack | Queried hstack | ParentFetched hstack | ParentEntered hstack =>
      exact hr.goto rfl (hr.tail hstack)
  | Dispatched hstack =>
      apply hr.goto rfl
      intro frame hmem
      rcases List.mem_cons.mp hmem with rfl | hmem
      · rfl
      · exact hr.tail hstack frame hmem
  | Inactive hstack =>
      rcases hstack with ⟨hstack, -⟩ | ⟨hstack, -⟩
      · exact hr.pop hstack rfl
      · exact hr.pop hstack rfl
  | Posted hstack | Reparented hstack | Detached hstack | Skipped hstack | ParentLeft hstack
  | QueryLeft hstack | DispatchLeft hstack | CallbackLeft hstack | Joined hstack =>
      exact hr.pop hstack rfl

end Rests

end OpenvpnConnect.External
