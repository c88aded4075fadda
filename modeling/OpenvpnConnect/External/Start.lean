import OpenvpnConnect.External.Order

namespace OpenvpnConnect.External

open Transition

section Prompt

variable {κ η ρ : Type}

-- A frame of a call on its way to the parent.
def Frame.carries (client : κ) (id : Ticket η) (method : Method) : Frame κ η ρ → Prop
  | .Waiting other (.Post number _ posted) | .Inside other (.Post number _ posted)
  | .Waiting other (.Fetch number posted) | .Inside other (.Fetch number posted)
  | .Fetched other number posted _ => other = client ∧ number = id ∧ posted = method
  | _ => False

-- A call on the I/O thread is delivered before it comes back.
def Prompt (kind : κ → Kind) (trace : List (Event κ η ρ)) (state : State κ η ρ) : Prop :=
  ∀ client id call method, kind client = .Tun → .Invoked .Io client id call ∈ trace →
    call.operation = .Post method →
    (∃ parent, .Entered .Io client parent id method ∈ trace) ∨ .Destroyed client ∈ trace ∨
      ∃ frame ∈ state.stack .Io, frame.carries client id method

theorem Frame.not_carries {client : κ} {id : Ticket η} {method : Method} {frame : Frame κ η ρ}
    (hr : frame.rests) : ¬frame.carries client id method := by
  cases frame <;> first | exact not_false | cases hr

-- A call that finds its client inactive comes after the destruction.
theorem destroyed_of_inactive [DecidableEq κ] {trace : List (Event κ η ρ)} {state : State κ η ρ} {client : κ}
    (hl : Lifetime trace state) (hb : (state.client client).built)
    (hi : ¬(state.client client).active) : .Destroyed client ∈ trace := by
  apply hl.orphan client hb
  cases hparent : (state.client client).parent with
  | none => rfl
  | some parent => simp [Client.active, hl.io, hparent] at hi

variable [DecidableEq κ] [DecidableEq η] {kind : κ → Kind}

theorem Move.carries {state after : State κ η ρ} {label : Label κ η ρ}
    {trace seen : List (Event κ η ρ)} {client : κ} {id : Ticket η} {method : Method}
    {frame : Frame κ η ρ} (hm : Move kind state label after seen) (hl : Lifetime trace state)
    (hk : Known trace state) (hkind : kind client = .Tun) (hmem : frame ∈ state.stack .Io)
    (hcarries : frame.carries client id method) :
    (∃ parent, .Entered .Io client parent id method ∈ seen) ∨ .Destroyed client ∈ trace ∨
      ∃ frame ∈ after.stack .Io, frame.carries client id method := by
  by_cases hthread : .Io = label.thread
  · have htail : ∀ {top rest}, state.stack .Io = top :: rest → frame = top ∨ frame ∈ rest :=
      fun hstack => List.mem_cons.mp (hstack ▸ hmem)
    cases hm with
    | Constructed | Refused | Cloned | Dropped | Finished => exact .inr (.inr ⟨frame, hmem, hcarries⟩)
    | ReparentBegun | DestroyBegun | Executed =>
        refine .inr (.inr ⟨frame, ?_, hcarries⟩)
        simpa [State.push] using .inr hmem
    | CallbackBegun | Invoked | JoinBegun =>
        obtain rfl := hthread
        refine .inr (.inr ⟨frame, ?_, hcarries⟩)
        simpa [State.push] using .inr hmem
    | @Locked thread other todo rest mutex hstack =>
        obtain rfl := hthread
        rcases htail hstack with rfl | hrest
        · refine .inr (.inr ⟨.Inside other todo, by simp, ?_⟩)
          cases todo <;> exact hcarries
        · exact .inr (.inr ⟨frame, by simp [hrest], hcarries⟩)
    | @Dispatched thread other number call posted rest hstack =>
        obtain rfl := hthread
        rcases htail hstack with rfl | hrest
        · exact .inr (.inr ⟨.Waiting other (.Fetch number posted), by simp, hcarries⟩)
        · exact .inr (.inr ⟨frame, by simp [hrest], hcarries⟩)
    | Posted hstack _ hinline =>
        obtain rfl := hthread
        rcases htail hstack with rfl | hrest
        · obtain ⟨rfl, -, -⟩ := hcarries
          exact absurd ⟨hkind, rfl⟩ hinline
        · exact .inr (.inr ⟨frame, by simp [hrest], hcarries⟩)
    | Inactive hstack =>
        obtain rfl := hthread
        rcases hstack with ⟨hstack, hinactive⟩ | ⟨hstack, -⟩
        · rcases htail hstack with rfl | hrest
          · obtain ⟨rfl, -, -⟩ := hcarries
            have hcall := hk.posting _ _ (mem_stack_of_tail hstack).1 _ _ _ _ (.inr rfl)
            exact .inr (.inl (destroyed_of_inactive hl (hk.numbers _ _ _ _ hcall).2.2 hinactive))
          · exact .inr (.inr ⟨frame, by simp [hrest], hcarries⟩)
        · rcases htail hstack with rfl | hrest
          · cases hcarries
          · exact .inr (.inr ⟨frame, by simp [hrest], hcarries⟩)
    | @ParentFetched thread other number posted rest mutex hstack =>
        obtain rfl := hthread
        rcases htail hstack with rfl | hrest
        · exact .inr (.inr ⟨.Fetched other number posted (state.client other).parent, by simp, hcarries⟩)
        · exact .inr (.inr ⟨frame, by simp [hrest], hcarries⟩)
    | Skipped hstack =>
        obtain rfl := hthread
        rcases htail hstack with rfl | hrest
        · obtain ⟨rfl, -, -⟩ := hcarries
          have hfetched := hl.frames _ _ (mem_stack_of_tail hstack).1
          exact .inr (.inl (hl.orphan _ hfetched.1 hfetched.2.symm))
        · exact .inr (.inr ⟨frame, by simp [hrest], hcarries⟩)
    | @ParentEntered thread other number posted parent rest hstack =>
        obtain rfl := hthread
        rcases htail hstack with rfl | hrest
        · obtain ⟨rfl, rfl, rfl⟩ := hcarries
          exact .inl ⟨parent, by simp⟩
        · exact .inr (.inr ⟨frame, by simp [hrest], hcarries⟩)
    | Queried hstack | Reparented hstack | Detached hstack | ParentLeft hstack | QueryLeft hstack
    | DispatchLeft hstack | CallbackLeft hstack | Joined hstack =>
        obtain rfl := hthread
        rcases htail hstack with rfl | hrest
        · cases hcarries
        · exact .inr (.inr ⟨frame, by simp [hrest], hcarries⟩)
  · rw [hm.stack_other hthread]
    exact .inr (.inr ⟨frame, hmem, hcarries⟩)

theorem Prompt.step {state after : State κ η ρ} {label : Label κ η ρ} {trace seen : List (Event κ η ρ)}
    (hp : Prompt kind trace state) (hl : Lifetime trace state) (hk : Known trace state)
    (hm : Move kind state label after seen) : Prompt kind (trace ++ seen) after := by
  intro client id call method hkind hmem hpost
  rcases List.mem_append.mp hmem with hold | hnew
  · rcases hp client id call method hkind hold hpost with ⟨parent, hentered⟩ | hgone | ⟨frame, hframe, hcarries⟩
    · exact .inl ⟨parent, List.mem_append_left _ hentered⟩
    · exact .inr (.inl (List.mem_append_left _ hgone))
    · rcases hm.carries hl hk hkind hframe hcarries with ⟨parent, hentered⟩ | hgone | hcarried
      · exact .inl ⟨parent, List.mem_append_right _ hentered⟩
      · exact .inr (.inl (List.mem_append_left _ hgone))
      · exact .inr (.inr hcarried)
  · cases hm with
    | Refused _ _ _ hrefuse =>
        obtain ⟨rfl, rfl, rfl, rfl⟩ : _ ∧ _ ∧ _ ∧ _ := by simpa using hnew
        rw [hrefuse] at hpost
        cases hpost
    | Invoked _ _ _ htodo =>
        obtain ⟨rfl, rfl, rfl, rfl⟩ : _ ∧ _ ∧ _ ∧ _ := by simpa using hnew
        rcases htodo with ⟨posted, ho, rfl⟩ | ⟨asked, ho, rfl⟩
        · rw [ho] at hpost
          cases hpost
          exact .inr (.inr ⟨.Waiting client (.Post ⟨.Io, state.calls⟩ call method), by simp [State.push],
            rfl, rfl, rfl⟩)
        · rw [ho] at hpost
          cases hpost
    | _ => simp at hnew

theorem run_prompt {guard : List (Event κ η ρ) → State κ η ρ → Label κ η ρ → Prop}
    {trace : List (Event κ η ρ)} {last : State κ η ρ}
    (hrun : Run (machine kind) guard .new trace last) : Prompt kind trace last :=
  hrun.invariant_with (fun trace state => Lifetime trace state ∧ Known trace state) (Prompt kind)
    (fun _ _ h => ⟨run_lifetime h, run_known h⟩) (fun _ _ _ _ _ hmem => by cases hmem)
    fun _ _ _ _ _ h hp _ hstep => hp.step h.1 h.2 (step_move hstep)

end Prompt

section Held

variable {κ η ρ : Type} [DecidableEq κ]

-- While a start callback is on the I/O thread the calls that other threads
-- have made since it began stay on the queue.
def Held (kind : κ → Kind) (trace : List (Event κ η ρ)) (state : State κ η ρ) : Prop :=
  ∀ client front inside, trace = front ++ .Began .Io client .Start :: inside →
    .Ended .Io client .Start ∉ inside →
    .Callback client .Start ∈ state.stack .Io ∧
      ∀ reader id call, .Invoked (.App reader) client id call ∈ inside →
        (∀ frame ∈ state.stack .Io, ∀ method, frame.fetches client ≠ some (id, method)) ∧
          (kind client = .Tun → ∀ thread parent method, .Entered thread client parent id method ∉ trace)

theorem Frame.fetches_ticket {frame : Frame κ η ρ} {client : κ} {id : Ticket η} {method : Method}
    (hf : frame.fetches client = some (id, method)) : id ∈ frame.ticket := by
  unfold fetches at hf
  split at hf
  · obtain ⟨-, he⟩ := Option.ite_none_right_eq_some.mp hf
    obtain ⟨rfl, -⟩ := Prod.mk.inj (Option.some.inj he)
    rfl
  · obtain ⟨-, he⟩ := Option.ite_none_right_eq_some.mp hf
    obtain ⟨rfl, -⟩ := Prod.mk.inj (Option.some.inj he)
    rfl
  · obtain ⟨-, he⟩ := Option.ite_none_right_eq_some.mp hf
    obtain ⟨rfl, -⟩ := Prod.mk.inj (Option.some.inj he)
    rfl
  · cases hf

variable [DecidableEq η] {kind : κ → Kind}

-- A callback ends with its own event.
theorem Move.callback {state after : State κ η ρ} {label : Label κ η ρ} {seen : List (Event κ η ρ)}
    {thread : Thread η} {client : κ} {callback : Callback} (hm : Move kind state label after seen)
    (hmem : .Callback client callback ∈ state.stack thread) (hended : .Ended thread client callback ∉ seen) :
    .Callback client callback ∈ after.stack thread := by
  by_cases hthread : thread = label.thread
  · have htail : ∀ {top rest}, state.stack thread = top :: rest →
        .Callback client callback = top ∨ .Callback client callback ∈ rest :=
      fun hstack => List.mem_cons.mp (hstack ▸ hmem)
    cases hm with
    | Constructed | Refused | Cloned | Dropped | Finished => exact hmem
    | ReparentBegun | DestroyBegun | Executed =>
        rw [hthread] at hmem ⊢
        simpa [State.push, Label.thread] using hmem
    | CallbackBegun | Invoked | JoinBegun =>
        obtain rfl := hthread
        simp [State.push, hmem]
    | CallbackLeft hstack =>
        obtain rfl := hthread
        rcases htail hstack with he | hrest
        · cases he
          simp at hended
        · simpa using hrest
    | Inactive hstack =>
        obtain rfl := hthread
        rcases hstack with ⟨hstack, -⟩ | ⟨hstack, -⟩
        · rcases htail hstack with he | hrest
          · cases he
          · simpa using hrest
        · rcases htail hstack with he | hrest
          · cases he
          · simpa using hrest
    | Locked hstack | Dispatched hstack | Posted hstack | Queried hstack | ParentFetched hstack
    | Reparented hstack | Detached hstack | Skipped hstack | ParentEntered hstack | ParentLeft hstack
    | QueryLeft hstack | DispatchLeft hstack | Joined hstack =>
        obtain rfl := hthread
        rcases htail hstack with he | hrest
        · cases he
        · simp [hrest]
  · rw [hm.stack_other hthread]
    exact hmem

-- With a frame on the I/O thread its new fetches are of its own calls.
omit [DecidableEq η] in
theorem Enters.fetches {state : State κ η ρ} {label : Label κ η ρ} {frame : Frame κ η ρ}
    {client : κ} {id : Ticket η} {method : Method} (hp : Proper kind state)
    (hnew : Enters kind state label .Io frame) (hlabel : label ≠ .Execute)
    (hfetches : frame.fetches client = some (id, method)) :
    id.thread = .Io ∨ ∃ other ∈ state.stack .Io, other.fetches client = some (id, method) := by
  cases hnew with
  | Execute => exact absurd rfl hlabel
  | @Lock _ other todo hmem =>
      refine .inr ⟨_, hmem, ?_⟩
      cases todo <;> exact hfetches
  | Dispatch hstack _ _ hframe =>
      have hthread := (hp.frames .Io _ (mem_stack_of_tail hstack).1).2.2
      rcases hframe with rfl | rfl
      · obtain ⟨-, he⟩ := Option.ite_none_right_eq_some.mp hfetches
        obtain ⟨rfl, -⟩ := Prod.mk.inj (Option.some.inj he)
        exact .inl hthread
      · cases hfetches
  | Fetched hmem => exact .inr ⟨_, hmem, hfetches⟩
  | _ => cases hfetches

-- What enters the parent of a TUN has been fetched on the I/O thread.
theorem Move.entered_fetched {state after : State κ η ρ} {label : Label κ η ρ}
    {seen : List (Event κ η ρ)} {thread : Thread η} {client : κ} {parent : ρ} {id : Ticket η}
    {method : Method} (hm : Move kind state label after seen) (hp : Proper kind state)
    (hs : Sound state) (hkind : kind client = .Tun)
    (hmem : .Entered thread client parent id method ∈ seen) :
    ∃ rest, state.stack .Io = .Fetched client id method (some parent) :: rest ∧ thread = .Io ∧
      seen = [.Entered thread client parent id method] := by
  cases hm with
  | Queried hstack =>
      obtain ⟨rfl, rfl, rfl, rfl, rfl⟩ : _ ∧ _ ∧ _ ∧ _ ∧ _ := by simpa using hmem
      have hquery := hp.frames _ _ (mem_stack_of_tail hstack).1
      have hcall := (Call.query_transport hquery.2).1
      rw [hquery.1, hkind] at hcall
      cases hcall
  | ParentEntered hstack =>
      obtain ⟨rfl, rfl, rfl, rfl, rfl⟩ : _ ∧ _ ∧ _ ∧ _ ∧ _ := by simpa using hmem
      obtain rfl := hs.onIo _ _ (mem_stack_of_tail hstack).1 rfl
      exact ⟨_, hstack, rfl, rfl⟩
  | _ => simp at hmem

theorem Held.step {state after : State κ η ρ} {label : Label κ η ρ} {trace seen : List (Event κ η ρ)}
    (hh : Held kind trace state) (hp : Proper kind state) (hs : Sound state) (hk : Known trace state)
    (hn : Numbered state) (hsub : Submitted kind trace state) (hsettles : Settles kind trace)
    (hm : Move kind state label after seen) : Held kind (trace ++ seen) after := by
  intro client front inside he hended
  rcases split_append he with ⟨old, htrace, rfl⟩ | ⟨before, hseen, rfl⟩
  · simp only [List.mem_append, not_or] at hended
    obtain ⟨hcallback, hquiet⟩ := hh client front old htrace hended.1
    have hlabel : label ≠ .Execute := by
      rintro rfl
      cases hm with
      | Executed hidle => simp [hidle] at hcallback
    refine ⟨hm.callback hcallback hended.2, ?_⟩
    intro reader id call hmem
    -- the other thread's call has not been fetched before this step
    have hbefore : (∀ frame ∈ state.stack .Io, ∀ method, frame.fetches client ≠ some (id, method)) ∧
        (kind client = .Tun → ∀ thread parent method, .Entered thread client parent id method ∉ trace) ∧
        id.thread = .App reader := by
      rcases List.mem_append.mp hmem with hold | hnew
      · obtain ⟨hframes, hentered⟩ := hquiet reader id call hold
        have hinvoked : .Invoked (.App reader) client id call ∈ trace := by
          rw [htrace]
          exact List.mem_append_right _ (List.mem_cons_of_mem _ hold)
        exact ⟨hframes, hentered, (hk.numbers _ _ _ _ hinvoked).1⟩
      · obtain ⟨rfl, -⟩ := hm.invoked_known hnew
        refine ⟨?_, ?_, rfl⟩
        · intro frame hframe method hfetches
          have hlt := hn.frames .Io frame hframe _ (Frame.fetches_ticket hfetches)
          exact Nat.lt_irrefl _ hlt
        · intro hkind thread parent method hentered
          obtain ⟨earlier, hinvoked, -⟩ := invoked_of_entered hsub hk hsettles hkind hentered
          exact Nat.lt_irrefl _ (hk.numbers _ _ _ _ hinvoked).2.1
    obtain ⟨hframes, hentered, hthread⟩ := hbefore
    constructor
    · have hinv : EveryFrame (fun thread frame => thread = .Io →
          ∀ method, frame.fetches client ≠ some (id, method)) after := by
        refine hm.everyFrame (fun thread frame hmem he => ?_) fun thread frame hnew he method hfetches => ?_
        · subst he
          exact hframes frame hmem
        · subst he
          rcases hnew.fetches hp hlabel hfetches with hio | ⟨other, hmem, hother⟩
          · rw [hthread] at hio
            cases hio
          · exact hframes other hmem method hother
      exact fun frame hmem => hinv .Io frame hmem rfl
    · intro hkind thread parent method hmem
      rcases List.mem_append.mp hmem with hold | hnew
      · exact hentered hkind thread parent method hold
      · obtain ⟨rest, hstack, -⟩ := hm.entered_fetched hp hs hkind hnew
        exact hframes _ (mem_stack_of_tail hstack).1 method (if_pos rfl)
  · have hbegan : .Began .Io client .Start ∈ seen := hseen ▸ List.mem_append_right _ List.mem_cons_self
    cases hm with
    | CallbackBegun =>
        obtain ⟨rfl, rfl, rfl⟩ : _ ∧ _ ∧ _ := by simpa using hbegan
        obtain rfl : inside = [] := by
          have hlength := congrArg List.length hseen
          simp only [List.length_append, List.length_cons, List.length_nil] at hlength
          exact List.length_eq_zero_iff.mp (by omega)
        exact ⟨by simp [State.push], fun _ _ _ hmem => by cases hmem⟩
    | _ => simp at hbegan

theorem run_held {guard : List (Event κ η ρ) → State κ η ρ → Label κ η ρ → Prop}
    {trace : List (Event κ η ρ)} {last : State κ η ρ}
    (hrun : Run (machine kind) guard .new trace last) : Held kind trace last :=
  hrun.invariant_with (fun trace state => Run (machine kind) guard .new trace state) (Held kind)
    (fun _ _ h => h) (fun _ _ _ he => by simp at he)
    fun _ _ _ _ _ h hh _ hstep => hh.step (run_proper h) (run_sound h) (run_known h)
      (run_numbered h) (run_submitted h) (run_settles h) (step_move hstep)

end Held

section Order

variable {κ η ρ : Type} [DecidableEq κ] [DecidableEq η] {kind : κ → Kind}

-- What another thread's call on a TUN finds when its delivery begins, and what
-- a call on the I/O thread finds while the start callback runs.
def Orders (kind : κ → Kind) (front : List (Event κ η ρ)) : Event κ η ρ → Prop
  | .Entered _ client _ id _ => kind client = .Tun →
      (∃ call, .Invoked id.thread client id call ∈ front) ∧ (id.thread ≠ .Io →
        ∀ first call method, .Invoked .Io client first call ∈ front → call.operation = .Post method →
          ∃ parent, .Entered .Io client parent first method ∈ front)
  | .Invoked .Io client _ _ => kind client = .Tun →
      ∀ early inside, front = early ++ .Began .Io client .Start :: inside →
        .Ended .Io client .Start ∉ inside → ∀ reader id call,
          .Invoked (.App reader) client id call ∈ inside →
            ∀ thread parent method, .Entered thread client parent id method ∉ front
  | _ => True

-- The only frame on its way to the parent is that of the call itself.
theorem Prompt.entered {trace : List (Event κ η ρ)} {state : State κ η ρ} {client : κ} {parent : ρ}
    {id first : Ticket η} {method posted : Method} {call : Call} {rest : List (Frame κ η ρ)}
    (hp : Prompt kind trace state) (hl : Lifetime trace state) (hs : Sound state)
    (hkind : kind client = .Tun) (hne : id ≠ first)
    (hstack : state.stack .Io = .Fetched client id method (some parent) :: rest)
    (hinvoked : .Invoked .Io client first call ∈ trace) (hpost : call.operation = .Post posted) :
    ∃ parent, .Entered .Io client parent first posted ∈ trace := by
  rcases hp client first call posted hkind hinvoked hpost with hentered | hgone | ⟨frame, hmem, hcarries⟩
  · exact hentered
  · have hfetched := (hl.frames _ _ (mem_stack_of_tail hstack).1).2
    rw [(hl.gone client hgone).2.2] at hfetched
    cases hfetched
  · rcases List.mem_cons.mp (hstack ▸ hmem) with rfl | hrest
    · exact absurd hcarries.2.1 hne
    · exact absurd hcarries (Frame.not_carries (hs.rested.tail hstack frame hrest))

theorem Move.orders {state after : State κ η ρ} {label : Label κ η ρ} {trace seen : List (Event κ η ρ)}
    (hrun : Reaches (machine kind) .new trace state)
    (hrun' : Reaches (machine kind) .new (trace ++ seen) after)
    (hm : Move kind state label after seen) : AlwaysFrom (Orders kind) trace seen := by
  apply alwaysFrom_of_split
  intro before event rest he
  cases event with
  | Entered thread client parent id method =>
      intro hkind
      have hmem : .Entered thread client parent id method ∈ seen := by simp [he]
      obtain ⟨frames, hstack, rfl, hseen⟩ := hm.entered_fetched (run_proper hrun) (run_sound hrun) hkind hmem
      obtain rfl : before = [] := by
        have hlength := congrArg List.length (hseen.symm.trans he)
        simp only [List.length_append, List.length_cons, List.length_nil] at hlength
        exact List.length_eq_zero_iff.mp (by omega)
      rw [List.append_nil]
      constructor
      · obtain ⟨call, hcall, -⟩ := invoked_of_entered (run_submitted hrun') (run_known hrun')
          (run_settles hrun') hkind (List.mem_append_right trace hmem)
        rw [hseen] at hcall
        exact ⟨call, by simpa using hcall⟩
      · intro hthread first call posted hinvoked hpost
        have hne : id ≠ first := by
          rintro rfl
          exact hthread ((run_known hrun).numbers _ _ _ _ hinvoked).1
        exact (run_prompt hrun).entered (run_lifetime hrun) (run_sound hrun) hkind hne hstack hinvoked hpost
  | Invoked thread client id call =>
      cases thread with
      | App reader => trivial
      | Io =>
          intro hkind early inside hfront hended reader other call' hmem actor parent method hentered
          obtain rfl : before = [] := by
            cases before with
            | nil => rfl
            | cons first more =>
                have htail : .Invoked .Io client id call ∈ seen.tail := by simp [he]
                cases hm <;> simp at htail
          rw [List.append_nil] at hfront hentered
          exact ((run_held hrun client early inside hfront hended).2 reader other call' hmem).2 hkind
            actor parent method hentered
  | _ => trivial

theorem run_orders {trace : List (Event κ η ρ)} {last : State κ η ρ}
    (hrun : Reaches (machine kind) .new trace last) : Always (Orders kind) trace :=
  hrun.invariant_with (fun trace state => Reaches (machine kind) .new trace state)
    (fun trace _ => Always (Orders kind) trace) (fun _ _ h => h) (always_nil _)
    fun _ _ _ _ _ h halways hguard hstep =>
      halways.append (Move.orders h (.Step h hguard hstep) (step_move hstep))

-- A call on the I/O thread during the start callback is delivered before every
-- packet that another thread submits once the callback has begun.
def StartsFirst (client : κ) (trace : List (Event κ η ρ)) : Prop :=
  ∀ front inside rest first call method,
    trace = front ++ .Began .Io client .Start :: inside ++ .Invoked .Io client first call :: rest →
    .Ended .Io client .Start ∉ inside → call.operation = .Post method →
    ∀ reader second packet, .Invoked (.App reader) client second (.Tun (.Receive packet)) ∈ inside ++ rest →
      ∀ early late thread parent other, trace = early ++ .Entered thread client parent second other :: late →
        ∃ parent, .Entered .Io client parent first method ∈ early

-- A call is made once.
omit [DecidableEq η] in
theorem invoked_once {trace front back : List (Event κ η ρ)} {state : State κ η ρ} {thread other : Thread η}
    {client : κ} {id : Ticket η} {call again : Call} (hk : Known trace state) (he : trace = front ++ back)
    (hfront : .Invoked thread client id call ∈ front) : .Invoked other client id again ∉ back := by
  intro hback
  have hsorted := hk.sorted client
  rw [he, submitted, List.filterMap_append] at hsorted
  have hlt := (List.pairwise_append.mp hsorted).2.2 id (mem_submitted.mpr ⟨_, _, hfront⟩) id
    (mem_submitted.mpr ⟨_, _, hback⟩)
  exact Nat.lt_irrefl _ hlt

theorem starts_first {trace : List (Event κ η ρ)} {last : State κ η ρ} {client : κ}
    (hrun : Reaches (machine kind) .new trace last) (hkind : kind client = .Tun) :
    StartsFirst client trace := by
  intro front inside rest first call method htrace hended hpost reader second packet hsecond early late
    thread parent other hsplit
  have horders := run_orders hrun
  have hentered := horders early _ late hsplit hkind
  have hfirst : .Invoked .Io client first call ∈ early := by
    rcases split_append (htrace.symm.trans hsplit) with ⟨middle, hbefore, -⟩ | ⟨before, hafter, rfl⟩
    · -- a delivery before the call on the I/O thread is of an earlier call
      exfalso
      have hold : .Entered thread client parent second other ∈ front ++ .Began .Io client .Start :: inside := by
        rw [hbefore]
        simp
      rcases List.mem_append.mp hsecond with hinside | hrest
      · exact horders _ _ rest htrace hkind front inside rfl hended reader second _ hinside _ _ _ hold
      · obtain ⟨again, hagain⟩ := hentered.1
        have hbegun : .Invoked second.thread client second again ∈
            front ++ .Began .Io client .Start :: inside := by
          rw [hbefore]
          exact List.mem_append_left _ hagain
        exact invoked_once (run_known hrun) htrace hbegun (List.mem_cons_of_mem _ hrest)
    · cases before with
      | nil => simp at hafter
      | cons event before =>
          obtain ⟨rfl, -⟩ := List.cons.inj hafter
          simp
  have hthread : second.thread ≠ .Io := by
    have hinvoked : .Invoked (.App reader) client second (.Tun (.Receive packet)) ∈ trace := by
      rw [htrace]
      rcases List.mem_append.mp hsecond with hinside | hrest
      · simp [hinside]
      · simp [hrest]
    rw [((run_known hrun).numbers _ _ _ _ hinvoked).1]
    simp
  exact hentered.2 hthread first call method hfirst hpost

theorem tun_order {trace : List (Event κ η ρ)} {last : State κ η ρ} {client : κ}
    (hrun : Reaches (machine kind) .new trace last) (hkind : kind client = .Tun) :
    (∀ thread, (delivered client thread trace).Sublist (submitted client trace)) ∧
      StartsFirst client trace :=
  ⟨fun thread => delivered_sublist (run_submitted hrun) (run_known hrun) (run_settles hrun) hkind thread,
    starts_first hrun hkind⟩

end Order

-- A reader's packet is queued before pre_tun_config and connected are called in
-- the start callback, and delivered after both.
def queuedFirst : List (Label Unit (Fin 1) (Fin 1)) :=
  [.Construct () 0, .Callback .Io () .Start, .Clone .Io (),
    .Invoke (.App 0) () (.Tun (.Receive [1, 2])), .Lock (.App 0), .Run (.App 0),
    .Invoke .Io () (.Tun .PreTunConfig), .Lock .Io, .Run .Io, .Lock .Io, .Run .Io, .Run .Io,
    .Return .Io .none, .Return .Io .none,
    .Invoke .Io () (.Tun .Connected), .Lock .Io, .Run .Io, .Lock .Io, .Run .Io, .Run .Io,
    .Return .Io .none, .Return .Io .none, .Return .Io .none,
    .Execute, .Lock .Io, .Run .Io, .Run .Io]

theorem tun_order_queued_first : ∃ trace last,
    Reaches (machine fun _ => .Tun) (State.new : State Unit (Fin 1) (Fin 1)) trace last ∧
      (submitted () trace = [⟨.App 0, 0⟩, ⟨.Io, 1⟩, ⟨.Io, 2⟩] ∧
        delivered () .Io trace = [⟨.Io, 1⟩, ⟨.Io, 2⟩] ∧ delivered () (.App 0) trace = [⟨.App 0, 0⟩]) ∧
      StartsFirst () trace := by
  obtain ⟨trace, last, hrun, hcalls⟩ : ∃ trace last,
      Reaches (machine fun _ => .Tun) (State.new : State Unit (Fin 1) (Fin 1)) trace last ∧
        (submitted () trace = [⟨.App 0, 0⟩, ⟨.Io, 1⟩, ⟨.Io, 2⟩] ∧
          delivered () .Io trace = [⟨.Io, 1⟩, ⟨.Io, 2⟩] ∧ delivered () (.App 0) trace = [⟨.App 0, 0⟩]) :=
    exists_run queuedFirst (by decide)
  exact ⟨trace, last, hrun, hcalls, (tun_order hrun rfl).2⟩

end OpenvpnConnect.External
