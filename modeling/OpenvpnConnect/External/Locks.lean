import OpenvpnConnect.External.Frames

namespace OpenvpnConnect.External

open Transition

section Counted

variable {κ η ρ : Type} [DecidableEq κ] [DecidableEq η]

def held (client : κ) (frames : List (Frame κ η ρ)) : Nat := frames.countP (Frame.locks client)

-- A thread has locked a mutex once for every frame of it that says so.
def Counted (state : State κ η ρ) : Prop :=
  ∀ client thread, (state.client client).mutex.count thread = held client (state.stack thread)

omit [DecidableEq η] in
@[simp] theorem held_nil (client : κ) : held client ([] : List (Frame κ η ρ)) = 0 := rfl

omit [DecidableEq η] in
theorem held_cons (client : κ) (frame : Frame κ η ρ) (rest : List (Frame κ η ρ)) :
    held client (frame :: rest) = held client rest + if frame.locks client then 1 else 0 :=
  List.countP_cons

omit [DecidableEq η] in
theorem held_cons_of_free {client : κ} {frame : Frame κ η ρ} (rest : List (Frame κ η ρ))
    (hfree : frame.locks client = false) : held client (frame :: rest) = held client rest := by
  simp [held_cons, hfree]

theorem counted_new : Counted (.new : State κ η ρ) := fun _ _ => rfl

-- The stack of a thread changes and no mutex does.
theorem Counted.goto {state after : State κ η ρ} {thread : Thread η} {frames : List (Frame κ η ρ)}
    (hc : Counted state) (hstack : after.stack = (state.goto thread frames).stack)
    (hmutex : ∀ client, (after.client client).mutex = (state.client client).mutex)
    (hframes : ∀ client, held client frames = held client (state.stack thread)) :
    Counted after := by
  intro client other
  rw [hmutex, hc client other, hstack, State.stack_goto]
  split
  · rename_i he
    rw [he, hframes]
  · rfl

theorem Counted.locked {state after : State κ η ρ} {thread : Thread η} {client : κ}
    {discipline : Discipline} {mutex : Mutex (Thread η)} {top frame : Frame κ η ρ}
    {rest : List (Frame κ η ρ)} (hc : Counted state)
    (hl : (state.client client).mutex.lock discipline thread = some mutex)
    (htop : state.stack thread = top :: rest)
    (hclient : after.client = (state.setMutex client mutex).client)
    (hstack : after.stack = (state.goto thread (frame :: rest)).stack)
    (hfree : ∀ other, top.locks other = false)
    (hlocks : ∀ other, frame.locks other = decide (client = other)) : Counted after := by
  intro other actor
  rw [hstack, State.stack_goto, hclient, State.setMutex, State.client_setClient]
  have hcount := Mutex.count_lock hl actor
  have hbefore := hc other actor
  by_cases ha : actor = thread
  · subst ha
    rw [htop, held_cons, hfree] at hbefore
    rw [if_pos rfl, held_cons, hlocks]
    by_cases ho : other = client
    · subst ho
      simpa [hbefore] using hcount
    · simpa [ho, Ne.symm ho] using hbefore
  · rw [if_neg ha, ← hbefore]
    by_cases ho : other = client
    · subst ho
      simpa [Ne.symm ha] using hcount
    · simp [ho]

-- The unlock of a section, of a query or of an inline dispatch.
theorem Counted.unlocked {state after : State κ η ρ} {thread : Thread η} {client : κ}
    {mutex : Mutex (Thread η)} {value : Client η ρ} {top : Frame κ η ρ}
    {rest frames : List (Frame κ η ρ)} (hc : Counted state)
    (hu : (state.client client).mutex.unlock thread = some mutex)
    (htop : state.stack thread = top :: rest)
    (hclient : after.client = (state.setClient client value).client)
    (hstack : after.stack = (state.goto thread frames).stack) (hvalue : value.mutex = mutex)
    (hlocks : ∀ other, top.locks other = decide (client = other))
    (hframes : ∀ other, held other frames = held other rest) : Counted after := by
  intro other actor
  rw [hstack, State.stack_goto, hclient, State.client_setClient]
  have hcount := Mutex.count_unlock hu actor
  have hbefore := hc other actor
  by_cases ha : actor = thread
  · subst ha
    rw [htop, held_cons, hlocks] at hbefore
    rw [if_pos rfl, hframes]
    by_cases ho : other = client
    · subst ho
      simp only [if_true, decide_true] at hbefore hcount
      rw [if_pos rfl, hvalue]
      omega
    · simpa [ho, Ne.symm ho] using hbefore
  · rw [if_neg ha, ← hbefore]
    by_cases ho : other = client
    · subst ho
      rw [if_neg (Ne.symm ha)] at hcount
      rw [if_pos rfl, hvalue]
      omega
    · rw [if_neg ho]

theorem Counted.push {state after : State κ η ρ} {thread : Thread η} {frame : Frame κ η ρ}
    (hc : Counted state) (hstack : after.stack = (state.push thread frame).stack)
    (hmutex : ∀ client, (after.client client).mutex = (state.client client).mutex)
    (hfree : ∀ other, frame.locks other = false) : Counted after :=
  hc.goto hstack hmutex fun client => held_cons_of_free _ (hfree client)

omit [DecidableEq η] in
theorem State.mutex_setClient {state : State κ η ρ} {client : κ} {value : Client η ρ}
    (hvalue : value.mutex = (state.client client).mutex) (other : κ) :
    ((state.setClient client value).client other).mutex = (state.client other).mutex := by
  rw [State.client_setClient]
  split
  · rename_i he
    rw [he, hvalue]
  · rfl

theorem Move.counted {kind : κ → Kind} {state after : State κ η ρ} {label : Label κ η ρ}
    {seen : List (Event κ η ρ)} (hm : Move kind state label after seen) (hc : Counted state) :
    Counted after := by
  cases hm with
  | Refused | Finished => exact hc
  | Constructed | Cloned | Dropped =>
      intro client thread
      exact (congrArg (Mutex.count thread) (State.mutex_setClient (by rfl) client)).trans
        (hc client thread)
  | ReparentBegun | Executed | Invoked | JoinBegun => exact hc.push rfl (fun _ => rfl) fun _ => rfl
  | DestroyBegun | CallbackBegun => exact hc.push rfl (State.mutex_setClient rfl) fun _ => rfl
  | Locked hstack hlock =>
      exact hc.locked hlock hstack rfl rfl (fun _ => rfl) (by simp [Frame.locks])
  | Dispatched hstack | Queried hstack =>
      apply hc.goto rfl fun _ => rfl
      intro client
      simp [hstack, held_cons, Frame.locks]
  | Skipped hstack | ParentEntered hstack | ParentLeft hstack | CallbackLeft hstack | Joined hstack =>
      apply hc.goto rfl fun _ => rfl
      intro client
      simp [hstack, held_cons, Frame.locks]
  | Inactive hstack hunlock =>
      rcases hstack with ⟨hstack, -⟩ | ⟨hstack, -⟩
      · exact hc.unlocked hunlock hstack rfl rfl rfl (by simp [Frame.locks]) fun _ => rfl
      · exact hc.unlocked hunlock hstack rfl rfl rfl (by simp [Frame.locks]) fun _ => rfl
  | Posted hstack _ _ hunlock =>
      exact hc.unlocked hunlock hstack rfl rfl rfl (by simp [Frame.locks]) fun _ => rfl
  | ParentFetched hstack hunlock =>
      exact hc.unlocked hunlock hstack rfl rfl rfl (by simp [Frame.locks])
        fun _ => held_cons_of_free _ rfl
  | Reparented hstack hunlock | Detached hstack hunlock | QueryLeft hstack hunlock
  | DispatchLeft hstack hunlock =>
      exact hc.unlocked hunlock hstack rfl rfl rfl (by simp [Frame.locks]) fun _ => rfl

end Counted

section Sound

variable {κ η ρ : Type} [DecidableEq κ] [DecidableEq η]

-- What holds of the stacks and the mutexes in every state of every run.
structure Sound (state : State κ η ρ) : Prop where
  onIo : EveryFrame (fun thread frame => frame.ofIo → thread = .Io) state
  rested : Rested state
  counted : Counted state

theorem sound_new : Sound (.new : State κ η ρ) where
  onIo := everyFrame_new _
  rested := by
    intro thread frame hmem
    cases hmem
  counted := counted_new

theorem Sound.step {kind : κ → Kind} {state after : State κ η ρ} {label : Label κ η ρ}
    {seen : List (Event κ η ρ)} (hs : Sound state)
    (hstep : (machine kind).step state label = some (after, seen)) : Sound after :=
  ⟨(step_move hstep).ofIo hs.onIo, (step_move hstep).rested hs.rested,
    (step_move hstep).counted hs.counted⟩

theorem Sound.reaches {kind : κ → Kind} {state last : State κ η ρ} {trace : List (Event κ η ρ)}
    (hs : Sound state) (hrun : Reaches (machine kind) state trace last) : Sound last :=
  hrun.invariant (fun _ state => Sound state) hs fun _ _ _ _ _ hs _ hstep => hs.step hstep

theorem run_sound {kind : κ → Kind}
    {guard : List (Event κ η ρ) → State κ η ρ → Label κ η ρ → Prop}
    {trace : List (Event κ η ρ)} {last : State κ η ρ}
    (hrun : Run (machine kind) guard .new trace last) : Sound last :=
  sound_new.reaches hrun.reaches

-- A thread that is in a section, in a query or in a dispatch has the mutex.
theorem Sound.holds {state : State κ η ρ} {thread : Thread η} {client : κ} {frame : Frame κ η ρ}
    (hs : Sound state) (hmem : frame ∈ state.stack thread) (hlocks : frame.locks client) :
    0 < (state.client client).mutex.count thread := by
  rw [hs.counted client thread]
  exact List.countP_pos_iff.mpr ⟨frame, hmem, hlocks⟩

end Sound

end OpenvpnConnect.External
