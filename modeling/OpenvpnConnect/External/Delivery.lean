import OpenvpnConnect.External.Detached

namespace OpenvpnConnect.External

open Transition

section Entries

variable {κ η ρ : Type}

-- The methods that only queries call.
def Method.asks : Method → Bool
  | .TransportIsOpenvpnProtocol | .IsKeepaliveEnabled | .DisableKeepalive => true
  | _ => false

theorem Call.asks_of_post {call : Call} {method : Method} (hpost : call.operation = .Post method) :
    method.asks = false := by
  cases call with
  | Transport call => cases call <;> first | cases hpost; rfl | cases hpost
  | Tun call =>
      cases call with
      | Receive packet =>
          simp only [operation, TunCall.operation] at hpost
          split at hpost <;> cases hpost
          rfl
      | _ =>
          cases hpost
          rfl

theorem Call.query_transport {call : Call} {method : Method} (hquery : call.operation = .Query method) :
    call.kind = .Transport ∧ method.asks = true := by
  cases call with
  | Transport call => cases call <;> first | cases hquery; exact ⟨rfl, rfl⟩ | cases hquery
  | Tun call =>
      cases call with
      | Receive packet =>
          simp only [operation, TunCall.operation] at hquery
          split at hquery <;> cases hquery
      | _ => cases hquery

-- What a frame says of the call that it belongs to.
def Frame.proper (kind : κ → Kind) (thread : Thread η) : Frame κ η ρ → Prop
  | .Waiting client (.Post id call method) | .Inside client (.Post id call method) =>
      call.kind = kind client ∧ call.operation = .Post method ∧ id.thread = thread
  | .Waiting client (.Query _ call method) | .Inside client (.Query _ call method)
  | .Queried client _ _ call method => call.kind = kind client ∧ call.operation = .Query method
  | .Waiting _ (.Fetch _ method) | .Inside _ (.Fetch _ method) | .Fetched _ _ method _ =>
      method.asks = false
  | _ => True

-- The closures on the queue come from calls that do not go around it.
structure Proper (kind : κ → Kind) (state : State κ η ρ) : Prop where
  frames : EveryFrame (fun thread frame => frame.proper kind thread) state
  queued : ∀ closure ∈ state.queue,
    closure.method.asks = false ∧ ¬inline (kind closure.client) closure.id.thread

variable [DecidableEq κ] [DecidableEq η] {kind : κ → Kind}

theorem Proper.step {state after : State κ η ρ} {label : Label κ η ρ} {seen : List (Event κ η ρ)}
    (hp : Proper kind state) (hm : Move kind state label after seen) : Proper kind after := by
  constructor
  · apply hm.everyFrame hp.frames
    intro thread frame hnew
    cases hnew with
    | Execute hmem => exact (hp.queued _ hmem).1
    | Post hkind ho => exact ⟨hkind, ho, rfl⟩
    | Query hkind ho => exact ⟨hkind, ho⟩
    | @Lock _ client todo hmem =>
        have hwait := hp.frames thread _ hmem
        cases todo <;> exact hwait
    | Dispatch hstack _ _ hframe =>
        have hpost := hp.frames thread _ (mem_stack_of_tail hstack).1
        rcases hframe with rfl | rfl
        · exact Call.asks_of_post hpost.2.1
        · trivial
    | Queried hstack _ =>
        have hquery := hp.frames thread _ (mem_stack_of_tail hstack).1
        exact hquery
    | Fetched hmem =>
        have hfetch := hp.frames thread _ hmem
        exact hfetch
    | _ => trivial
  · intro closure hmem
    cases hm with
    | Executed _ hqueue => exact hp.queued closure (hqueue ▸ List.mem_cons_of_mem _ hmem)
    | Posted hstack _ hinline =>
        rcases List.mem_append.mp hmem with hold | hnew
        · exact hp.queued closure hold
        · obtain rfl := List.mem_singleton.mp hnew
          have hpost := hp.frames _ _ (mem_stack_of_tail hstack).1
          refine ⟨Call.asks_of_post hpost.2.1, ?_⟩
          rw [hpost.2.2]
          exact hinline
    | _ => exact hp.queued closure hmem

theorem run_proper {guard : List (Event κ η ρ) → State κ η ρ → Label κ η ρ → Prop}
    {trace : List (Event κ η ρ)} {last : State κ η ρ}
    (hrun : Run (machine kind) guard .new trace last) : Proper kind last :=
  hrun.invariant (fun _ state => Proper kind state) ⟨everyFrame_new _, fun _ hmem => by cases hmem⟩
    fun _ _ _ _ _ hp _ hstep => hp.step (step_move hstep)

end Entries

section Flow

variable {κ η ρ : Type} [DecidableEq κ]

-- An event that is submitted to a client: its ticket and what it delivers.
abbrev Entry (η : Type) := Ticket η × Method

def Event.accepts (client : κ) : Event κ η ρ → Option (Entry η)
  | .Accepted _ other id method => if other = client then some (id, method) else none
  | _ => none

-- An accepted event is settled when it is delivered or skipped. Queries enter
-- the parent too.
def Event.settles (client : κ) : Event κ η ρ → Option (Entry η)
  | .Entered _ other _ id method =>
      if other = client ∧ method.asks = false then some (id, method) else none
  | .Skipped other id method => if other = client then some (id, method) else none
  | _ => none

def Frame.fetches (client : κ) : Frame κ η ρ → Option (Entry η)
  | .Waiting other (.Fetch id method) | .Inside other (.Fetch id method)
  | .Fetched other id method _ => if other = client then some (id, method) else none
  | _ => none

def Closure.entry (client : κ) (closure : Closure κ η) : Option (Entry η) :=
  if closure.client = client then some (closure.id, closure.method) else none

def accepted (client : κ) (trace : List (Event κ η ρ)) : List (Entry η) :=
  trace.filterMap (Event.accepts client)

def settled (client : κ) (trace : List (Event κ η ρ)) : List (Entry η) :=
  trace.filterMap (Event.settles client)

def fetching (client : κ) (frames : List (Frame κ η ρ)) : List (Entry η) :=
  frames.filterMap (Frame.fetches client)

def queued (client : κ) (queue : List (Closure κ η)) : List (Entry η) :=
  queue.filterMap (Closure.entry client)

-- What is accepted and not settled, in the order in which it will be.
def pending (client : κ) (state : State κ η ρ) : List (Entry η) :=
  fetching client (state.stack .Io) ++ queued client state.queue

variable [DecidableEq η]

-- The two ways of a submission: around the queue and through it.
def direct (kind : κ → Kind) (client : κ) (entry : Entry η) : Bool :=
  decide (inline (kind client) entry.1.thread)

def way (kind : κ → Kind) (client : κ) (around : Bool) (entries : List (Entry η)) : List (Entry η) :=
  entries.filter fun entry => direct kind client entry == around

-- On each way the events are settled in the order of their acceptance.
def Flow (kind : κ → Kind) (trace : List (Event κ η ρ)) (state : State κ η ρ) : Prop :=
  ∀ client around, way kind client around (accepted client trace) =
    way kind client around (settled client trace ++ pending client state)

omit [DecidableEq κ] in
theorem way_append (kind : κ → Kind) (client : κ) (around : Bool) (front back : List (Entry η)) :
    way kind client around (front ++ back) =
      way kind client around front ++ way kind client around back :=
  List.filter_append front back

omit [DecidableEq η] in
@[simp] theorem accepted_append (client : κ) (trace seen : List (Event κ η ρ)) :
    accepted client (trace ++ seen) = accepted client trace ++ accepted client seen :=
  List.filterMap_append

omit [DecidableEq η] in
@[simp] theorem settled_append (client : κ) (trace seen : List (Event κ η ρ)) :
    settled client (trace ++ seen) = settled client trace ++ settled client seen :=
  List.filterMap_append

omit [DecidableEq η] in
theorem fetching_cons (client : κ) (frame : Frame κ η ρ) (rest : List (Frame κ η ρ)) :
    fetching client (frame :: rest) = (frame.fetches client).toList ++ fetching client rest := by
  cases he : frame.fetches client <;> simp [fetching, he]

-- A step that fetches nothing for the queue leaves what is pending.
theorem pending_of_fetching {state after : State κ η ρ} {thread : Thread η}
    {frames : List (Frame κ η ρ)} {client : κ}
    (hstack : after.stack = (state.goto thread frames).stack) (hqueue : after.queue = state.queue)
    (hframes : fetching client frames = fetching client (state.stack thread)) :
    pending client after = pending client state := by
  unfold pending
  rw [hstack, hqueue, State.stack_goto]
  split
  · rename_i he
    rw [he, hframes]
  · rfl

variable {kind : κ → Kind}

theorem Flow.quiet {state after : State κ η ρ} {trace seen : List (Event κ η ρ)}
    (hf : Flow kind trace state) (haccepted : ∀ client, accepted client seen = [])
    (hsettled : ∀ client, settled client seen = [])
    (hpending : ∀ client, pending client after = pending client state) :
    Flow kind (trace ++ seen) after := by
  intro client around
  rw [accepted_append, settled_append, haccepted, hsettled, hpending, List.append_nil, List.append_nil]
  exact hf client around

-- One entry moves from what is pending to what is settled.
theorem Flow.settle {state after : State κ η ρ} {trace seen : List (Event κ η ρ)}
    (hf : Flow kind trace state) (haccepted : ∀ client, accepted client seen = [])
    (hmoves : ∀ client, settled client seen ++ pending client after = pending client state) :
    Flow kind (trace ++ seen) after := by
  intro client around
  rw [accepted_append, settled_append, haccepted, List.append_nil, List.append_assoc, hmoves]
  exact hf client around

omit [DecidableEq η] in
theorem pending_pop {state after : State κ η ρ} {client : κ} {top : Frame κ η ρ}
    {rest : List (Frame κ η ρ)} (htop : state.stack .Io = top :: rest)
    (hstack : fetching client (after.stack .Io) = fetching client rest)
    (hqueue : after.queue = state.queue) :
    (top.fetches client).toList ++ pending client after = pending client state := by
  unfold pending
  rw [hstack, hqueue, htop, fetching_cons, List.append_assoc]

omit [DecidableEq η] in
theorem fetching_of_rests {client : κ} {frames : List (Frame κ η ρ)}
    (hrests : ∀ frame ∈ frames, frame.rests) : fetching client frames = [] := by
  apply List.filterMap_eq_nil_iff.mpr
  intro frame hmem
  have hr := hrests frame hmem
  cases frame <;> first | rfl | cases hr

omit [DecidableEq κ] in
theorem way_eq_nil {client : κ} {around : Bool} {entries : List (Entry η)}
    (hother : ∀ entry ∈ entries, direct kind client entry ≠ around) :
    way kind client around entries = [] := by
  apply List.filter_eq_nil_iff.mpr
  intro entry hmem
  simpa using hother entry hmem

-- A closure that runs inline finds no other one under way.
theorem Flow.dispatched {state : State κ η ρ} {trace : List (Event κ η ρ)} {client : κ}
    {id : Ticket η} {call : Call} {method : Method} {rest : List (Frame κ η ρ)}
    (hf : Flow kind trace state) (hp : Proper kind state) (hs : Sound state)
    (hstack : state.stack .Io = .Inside client (.Post id call method) :: rest)
    (hinline : inline (kind client) (.Io : Thread η)) :
    Flow kind (trace ++ [.Accepted .Io client id method])
      (state.goto .Io
        (.Waiting client (.Fetch id method) :: .Dispatching client id call :: rest)) := by
  have hrest : ∀ other, fetching other rest = [] :=
    fun other => fetching_of_rests (hs.rested.tail hstack)
  intro other around
  have hbefore : pending other state = queued other state.queue := by
    simp [pending, hstack, fetching_cons, hrest, Frame.fetches]
  have hafter : pending other (state.goto .Io
      (.Waiting client (.Fetch id method) :: .Dispatching client id call :: rest)) =
      accepted other [(.Accepted .Io client id method : Event κ η ρ)] ++ queued other state.queue := by
    by_cases he : client = other
    · simp [pending, fetching_cons, hrest, Frame.fetches, accepted, Event.accepts, he]
    · simp [pending, fetching_cons, hrest, Frame.fetches, accepted, Event.accepts, he]
  have hflow := hf other around
  rw [hbefore, way_append] at hflow
  have hsettled : settled other [(.Accepted .Io client id method : Event κ η ρ)] = [] := rfl
  rw [accepted_append, settled_append, hsettled, hafter, List.append_nil]
  simp only [way_append, hflow, List.append_assoc]
  cases around with
  | true =>
      have hqueue : way kind other true (queued other state.queue) = [] := by
        apply way_eq_nil
        intro entry hmem
        obtain ⟨closure, hclosure, he⟩ := List.mem_filterMap.mp hmem
        obtain ⟨rfl, hentry⟩ := Option.ite_none_right_eq_some.mp he
        obtain rfl := Option.some.inj hentry
        simpa [direct] using (hp.queued closure hclosure).2
      rw [hqueue, List.nil_append, List.append_nil]
  | false =>
      have hentry : way kind other false
          (accepted other [(.Accepted .Io client id method : Event κ η ρ)]) = [] := by
        apply way_eq_nil
        intro entry hmem
        have hthread := (hp.frames .Io _ (mem_stack_of_tail hstack).1).2.2
        by_cases he : client = other
        · subst he
          obtain rfl : entry = (id, method) := by simpa [accepted, Event.accepts] using hmem
          simpa [direct, hthread] using hinline
        · simp [accepted, Event.accepts, he] at hmem
      rw [hentry, List.nil_append, List.append_nil]

theorem Flow.posted {state after : State κ η ρ} {trace seen : List (Event κ η ρ)} {client : κ}
    {id : Ticket η} {method : Method} (hf : Flow kind trace state)
    (hstack : ∀ other, fetching other (after.stack .Io) = fetching other (state.stack .Io))
    (hqueue : after.queue = state.queue ++ [⟨client, id, method⟩])
    (haccepted : ∀ other, accepted other seen = if client = other then [(id, method)] else [])
    (hsettled : ∀ other, settled other seen = []) : Flow kind (trace ++ seen) after := by
  intro other around
  have hafter : pending other after = pending other state ++ accepted other seen := by
    rw [pending, pending, hstack, hqueue, haccepted, queued, queued, List.filterMap_append]
    by_cases he : client = other
    · simp [Closure.entry, he]
    · simp [Closure.entry, he]
  rw [accepted_append, settled_append, hsettled, hafter, List.append_nil, ← List.append_assoc,
    way_append, hf other around, ← way_append]

theorem Flow.step {state after : State κ η ρ} {label : Label κ η ρ} {trace seen : List (Event κ η ρ)}
    (hf : Flow kind trace state) (hp : Proper kind state) (hs : Sound state)
    (hm : Move kind state label after seen) : Flow kind (trace ++ seen) after := by
  cases hm with
  | Constructed | Refused | Cloned | Dropped | Finished =>
      exact hf.quiet (fun _ => rfl) (fun _ => rfl) fun _ => rfl
  | ReparentBegun | DestroyBegun | CallbackBegun | JoinBegun =>
      exact hf.quiet (fun _ => rfl) (fun _ => rfl) fun _ => pending_of_fetching rfl rfl rfl
  | Invoked _ _ _ htodo =>
      rcases htodo with ⟨method, ho, rfl⟩ | ⟨method, ho, rfl⟩
      · exact hf.quiet (fun _ => rfl) (fun _ => rfl) fun _ => pending_of_fetching rfl rfl rfl
      · exact hf.quiet (fun _ => rfl) (fun _ => rfl) fun _ => pending_of_fetching rfl rfl rfl
  | @Executed closure rest hidle hqueue =>
      refine hf.quiet (fun _ => rfl) (fun _ => rfl) fun client => ?_
      by_cases he : closure.client = client
      · simp [pending, State.push, hidle, hqueue, fetching, queued, Frame.fetches, Closure.entry, he]
      · simp [pending, State.push, hidle, hqueue, fetching, queued, Frame.fetches, Closure.entry, he]
  | @Locked thread client todo rest mutex hstack =>
      refine hf.quiet (fun _ => rfl) (fun _ => rfl) fun other => pending_of_fetching rfl rfl ?_
      rw [hstack, fetching_cons, fetching_cons]
      cases todo <;> rfl
  | ParentFetched hstack =>
      refine hf.quiet (fun _ => rfl) (fun _ => rfl) fun client => pending_of_fetching rfl rfl ?_
      rw [hstack]
      rfl
  | Dispatched hstack _ hinline =>
      obtain ⟨hkind, rfl⟩ := hinline
      exact hf.dispatched hp hs hstack ⟨hkind, rfl⟩
  | @Posted thread client id call method rest mutex hstack =>
      refine hf.posted (fun other => ?_) rfl (fun other => ?_) fun _ => rfl
      · by_cases he : .Io = thread
        · subst he
          simp [hstack, fetching_cons, Frame.fetches]
        · exact congrArg (fetching other) (State.stack_goto_ne _ _ he)
      · by_cases he : client = other
        · simp [accepted, Event.accepts, he]
        · simp [accepted, Event.accepts, he]
  | Inactive hstack =>
      rcases hstack with ⟨hstack, -⟩ | ⟨hstack, -⟩
      · exact hf.quiet (fun _ => rfl) (fun _ => rfl) fun _ => pending_of_fetching rfl rfl (by rw [hstack]; rfl)
      · exact hf.quiet (fun _ => rfl) (fun _ => rfl) fun _ => pending_of_fetching rfl rfl (by rw [hstack]; rfl)
  | @Queried thread client id call method _ _ hstack =>
      have hquery := hp.frames thread _ (mem_stack_of_tail hstack).1
      refine hf.quiet (fun _ => rfl) (fun other => ?_) fun _ => pending_of_fetching rfl rfl (by rw [hstack]; rfl)
      simp [settled, Event.settles, (Call.query_transport hquery.2).2]
  | @Skipped thread client id method rest hstack =>
      obtain rfl := hs.onIo thread _ (mem_stack_of_tail hstack).1 rfl
      refine hf.settle (fun _ => rfl) fun other => ?_
      rw [← pending_pop hstack (congrArg (fetching other) (State.stack_goto_self state .Io rest)) rfl]
      by_cases he : client = other
      · simp [settled, Event.settles, Frame.fetches, he]
      · simp [settled, Event.settles, Frame.fetches, he]
  | @ParentEntered thread client id method parent rest hstack =>
      obtain rfl := hs.onIo thread _ (mem_stack_of_tail hstack).1 rfl
      have hasks : method.asks = false := hp.frames .Io _ (mem_stack_of_tail hstack).1
      refine hf.settle (fun _ => rfl) fun other => ?_
      have hfetching : fetching other ((state.goto .Io
          (.Parent client parent id method :: rest)).stack .Io) = fetching other rest := by
        simp [fetching_cons, Frame.fetches]
      rw [← pending_pop hstack hfetching rfl]
      by_cases he : client = other
      · simp [settled, Event.settles, Frame.fetches, he, hasks]
      · simp [settled, Event.settles, Frame.fetches, he]
  | Reparented hstack | Detached hstack | ParentLeft hstack | QueryLeft hstack | DispatchLeft hstack
  | CallbackLeft hstack | Joined hstack =>
      exact hf.quiet (fun _ => rfl) (fun _ => rfl) fun _ => pending_of_fetching rfl rfl (by rw [hstack]; rfl)

end Flow

section Order

variable {κ η ρ : Type}

-- A call that may still be accepted.
def Frame.posting : Frame κ η ρ → Option (Ticket η)
  | .Waiting _ (.Post id ..) | .Inside _ (.Post id ..) => some id
  | _ => none

-- Of one thread, the call that is made later is accepted later.
def earlier (first second : Ticket η) : Prop :=
  first.thread = second.thread → first.number < second.number

variable [DecidableEq κ]

structure Ascending (trace : List (Event κ η ρ)) (state : State κ η ρ) : Prop where
  behind : EveryFrame (fun _ frame => ∀ id, frame.posting = some id →
    ∀ client, ∀ entry ∈ accepted client trace, earlier entry.1 id) state
  old : ∀ client, ∀ entry ∈ accepted client trace, entry.1.number < state.calls
  ascending : ∀ client, (accepted client trace).Pairwise fun first second => earlier first.1 second.1

omit [DecidableEq κ] in
theorem posting_of_rests {frame : Frame κ η ρ} (hr : frame.rests) : frame.posting = none := by
  cases frame <;> first | rfl | cases hr

variable [DecidableEq η] {kind : κ → Kind}

theorem Ascending.quiet {state after : State κ η ρ} {label : Label κ η ρ}
    {trace seen : List (Event κ η ρ)} (ha : Ascending trace state)
    (hm : Move kind state label after seen) (haccepted : ∀ client, accepted client seen = []) :
    Ascending (trace ++ seen) after := by
  have hsame : ∀ client, accepted client (trace ++ seen) = accepted client trace := by
    intro client
    rw [accepted_append, haccepted, List.append_nil]
  refine ⟨?_, ?_, fun client => by rw [hsame]; exact ha.ascending client⟩
  · simp only [hsame]
    apply hm.everyFrame ha.behind
    intro thread frame hnew id hid client entry hmem
    cases hnew with
    | Post =>
        obtain rfl := Option.some.inj hid
        exact fun _ => ha.old client entry hmem
    | @Lock _ _ todo hwait =>
        cases todo with
        | Post => exact ha.behind thread _ hwait id hid client entry hmem
        | _ => cases hid
    | Dispatch _ _ _ hframe => rcases hframe with rfl | rfl <;> cases hid
    | _ => cases hid
  · intro client entry hmem
    have hold := ha.old client entry (hsame client ▸ hmem)
    have hcalls := hm.calls
    omega

-- The accepted call is the latest of its thread.
theorem Ascending.accept {state after : State κ η ρ} {thread : Thread η}
    {trace seen : List (Event κ η ρ)} {client : κ} {id : Ticket η} {call : Call} {method : Method}
    {rest frames : List (Frame κ η ρ)} (ha : Ascending trace state) (hp : Proper kind state)
    (hn : Numbered state)
    (htop : state.stack thread = .Inside client (.Post id call method) :: rest)
    (hstack : after.stack = (state.goto thread frames).stack) (hcalls : after.calls = state.calls)
    (hframes : ∀ frame ∈ frames, frame.posting = none)
    (haccepted : ∀ other, accepted other seen = if client = other then [(id, method)] else []) :
    Ascending (trace ++ seen) after := by
  have hinside := (mem_stack_of_tail htop).1
  have hthread : id.thread = thread := (hp.frames thread _ hinside).2.2
  have hnew : ∀ other, ∀ entry ∈ accepted other seen, entry = (id, method) := by
    intro other entry hmem
    rw [haccepted] at hmem
    split at hmem
    · exact List.mem_singleton.mp hmem
    · cases hmem
  refine ⟨?_, ?_, ?_⟩
  · refine EveryFrame.replace ?_ hstack fun frame hmem other hid => ?_
    · intro actor hne frame hmem other hid target entry hentry
      rw [accepted_append] at hentry
      rcases List.mem_append.mp hentry with hold | hentry
      · exact ha.behind actor frame hmem other hid target entry hold
      · rw [hnew target entry hentry]
        intro he
        have howner : other.thread = actor := by
          have hproper := hp.frames actor frame hmem
          unfold Frame.posting at hid
          split at hid <;> cases hid
          · exact hproper.2.2
          · exact hproper.2.2
        exact absurd (howner.symm.trans (he.symm.trans hthread)) hne
    · rw [hframes frame hmem] at hid
      cases hid
  · intro other entry hmem
    rw [accepted_append] at hmem
    rw [hcalls]
    rcases List.mem_append.mp hmem with hold | hentry
    · exact ha.old other entry hold
    · rw [hnew other entry hentry]
      exact hn.frames thread _ hinside id rfl
  · intro other
    rw [accepted_append]
    refine List.pairwise_append.mpr ⟨ha.ascending other, ?_, ?_⟩
    · rw [haccepted]
      split
      · exact List.pairwise_singleton _ _
      · exact List.Pairwise.nil
    · intro first hfirst second hsecond
      rw [hnew other second hsecond]
      exact ha.behind thread _ hinside id rfl other first hfirst

theorem Ascending.step {state after : State κ η ρ} {label : Label κ η ρ}
    {trace seen : List (Event κ η ρ)} (ha : Ascending trace state) (hp : Proper kind state)
    (hn : Numbered state) (hs : Sound state) (hm : Move kind state label after seen) :
    Ascending (trace ++ seen) after := by
  have hmove := hm
  cases hm with
  | @Dispatched thread client id call method rest hstack =>
      refine ha.accept hp hn hstack rfl rfl ?_ fun other => ?_
      · intro frame hmem
        rcases List.mem_cons.mp hmem with rfl | hmem
        · rfl
        rcases List.mem_cons.mp hmem with rfl | hmem
        · rfl
        · exact posting_of_rests (hs.rested.tail hstack frame hmem)
      · by_cases he : client = other
        · simp [accepted, Event.accepts, he]
        · simp [accepted, Event.accepts, he]
  | @Posted thread client id call method rest mutex hstack =>
      refine ha.accept hp hn hstack rfl rfl ?_ fun other => ?_
      · intro frame hmem
        exact posting_of_rests (hs.rested.tail hstack frame hmem)
      · by_cases he : client = other
        · simp [accepted, Event.accepts, he]
        · simp [accepted, Event.accepts, he]
  | _ => exact ha.quiet hmove fun _ => rfl

omit [DecidableEq η] in
theorem ascending_new : Ascending [] (.new : State κ η ρ) :=
  ⟨everyFrame_new _, fun _ _ hmem => (by cases hmem), fun _ => List.Pairwise.nil⟩

-- All that a run keeps of what is submitted.
structure Submitted (kind : κ → Kind) (trace : List (Event κ η ρ)) (state : State κ η ρ) : Prop where
  flow : Flow kind trace state
  ascending : Ascending trace state

theorem run_submitted {guard : List (Event κ η ρ) → State κ η ρ → Label κ η ρ → Prop}
    {trace : List (Event κ η ρ)} {last : State κ η ρ}
    (hrun : Run (machine kind) guard .new trace last) : Submitted kind trace last := by
  refine hrun.invariant_with
    (fun _ state => Proper kind state ∧ Numbered state ∧ Sound state) (Submitted kind)
    (fun _ _ h => ⟨run_proper h, run_numbered h, run_sound h⟩) ⟨fun _ _ => rfl, ascending_new⟩ ?_
  rintro _ _ _ _ _ ⟨hp, hn, hs⟩ ⟨hflow, hascending⟩ _ hstep
  exact ⟨hflow.step hp hs (step_move hstep), hascending.step hp hn hs (step_move hstep)⟩

omit [DecidableEq η] in
theorem Ascending.nodup {trace : List (Event κ η ρ)} {state : State κ η ρ} (ha : Ascending trace state)
    (client : κ) : ((accepted client trace).map Prod.fst).Nodup := by
  refine List.pairwise_map.mpr ((ha.ascending client).imp ?_)
  intro first second hearlier he
  exact Nat.lt_irrefl _ (he ▸ hearlier (congrArg Ticket.thread he))

end Order

section Answers

variable {κ η ρ : Type}

-- What is dispatched has been accepted before.
def Frame.backed (trace : List (Event κ η ρ)) (thread : Thread η) : Frame κ η ρ → Prop
  | .Dispatching client id call =>
      ∃ method, call.operation = .Post method ∧ .Accepted thread client id method ∈ trace
  | _ => True

def Backed (trace : List (Event κ η ρ)) (state : State κ η ρ) : Prop :=
  EveryFrame (fun thread frame => frame.backed trace thread) state

theorem Frame.backed_append {frame : Frame κ η ρ} {trace : List (Event κ η ρ)} {thread : Thread η}
    (hb : frame.backed trace thread) (seen : List (Event κ η ρ)) : frame.backed (trace ++ seen) thread := by
  cases frame with
  | Dispatching client id call =>
      obtain ⟨method, hpost, hmem⟩ := hb
      exact ⟨method, hpost, List.mem_append_left _ hmem⟩
  | _ => trivial

variable [DecidableEq κ] [DecidableEq η] {kind : κ → Kind}

theorem Move.accepted_of_dispatch {state after : State κ η ρ} {thread : Thread η} {client : κ}
    {id : Ticket η} {call : Call} {method : Method} {rest : List (Frame κ η ρ)} {seen : List (Event κ η ρ)}
    (hstack : state.stack thread = .Inside client (.Post id call method) :: rest)
    (hactive : (state.client client).active) (hinline : inline (kind client) thread)
    (hm : Move kind state (.Run thread) after seen) : .Accepted thread client id method ∈ seen := by
  cases hm with
  | Dispatched htop =>
      rw [hstack] at htop
      cases htop
      exact List.mem_cons_self
  | Posted htop _ hqueued =>
      rw [hstack] at htop
      cases htop
      exact absurd hinline hqueued
  | Inactive htop =>
      rw [hstack] at htop
      rcases htop with ⟨htop, hinactive⟩ | ⟨htop, -⟩
      · cases htop
        exact absurd hactive hinactive
      · cases htop
  | Queried htop | ParentFetched htop | Reparented htop | Detached htop | Skipped htop | ParentEntered htop =>
      rw [hstack] at htop
      cases htop

theorem Backed.step {state after : State κ η ρ} {label : Label κ η ρ} {trace seen : List (Event κ η ρ)}
    (hb : Backed trace state) (hp : Proper kind state) (hm : Move kind state label after seen) :
    Backed (trace ++ seen) after := by
  refine hm.everyFrame (hb.imp fun _ _ hframe => Frame.backed_append hframe seen) ?_
  intro thread frame hnew
  cases hnew with
  | Dispatch hstack hactive hinline hframe =>
      have hpost := hp.frames thread _ (mem_stack_of_tail hstack).1
      rcases hframe with rfl | rfl
      · trivial
      · exact ⟨_, hpost.2.1, List.mem_append_right _ (hm.accepted_of_dispatch hstack hactive hinline)⟩
  | _ => trivial

end Answers

section Transport

variable {κ η ρ : Type} [DecidableEq κ]

-- Deliveries go to the parent of the moment, and skips need a destroyed client.
def Delivers (front : List (Event κ η ρ)) : Event κ η ρ → Prop
  | .Entered _ client parent .. => current client front = some parent
  | .Skipped client .. => .Destroyed client ∈ front
  | _ => True

variable [DecidableEq η] {kind : κ → Kind}

theorem Move.delivers {state after : State κ η ρ} {label : Label κ η ρ}
    {trace seen : List (Event κ η ρ)} (hl : Lifetime trace state)
    (hm : Move kind state label after seen) : AlwaysFrom Delivers trace seen := by
  cases hm with
  | Queried _ hparent => exact ⟨(hl.current _).symm.trans hparent, trivial⟩
  | ParentEntered hstack =>
      have hfetched := (hl.frames _ _ (mem_stack_of_tail hstack).1).2
      exact ⟨(hl.current _).symm.trans hfetched.symm, trivial⟩
  | Skipped hstack =>
      have hfetched := hl.frames _ _ (mem_stack_of_tail hstack).1
      exact ⟨hl.orphan _ hfetched.1 hfetched.2.symm, trivial⟩
  | ReparentBegun | DestroyBegun | Executed | Cloned | Dropped | JoinBegun | Finished | Locked
  | ParentFetched | Joined => trivial
  | Refused | Posted | QueryLeft => exact ⟨trivial, trivial, trivial⟩
  | _ => exact ⟨trivial, trivial⟩

end Transport

end OpenvpnConnect.External
