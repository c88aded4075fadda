import OpenvpnConnect.External.Locks

namespace OpenvpnConnect.External

open Transition

section Nesting

variable {κ η ρ : Type}

-- The frames that keep a lock while other frames lie on them.
def Frame.keeps : Frame κ η ρ → Bool
  | .Queried .. | .Dispatching .. => true
  | _ => false

def State.joins (state : State κ η ρ) (thread : Thread η) : Option η :=
  match state.stack thread with
  | .Joining reader :: _ => some reader
  | _ => none

def State.awaits (state : State κ η ρ) (thread : Thread η) : Option κ :=
  match state.stack thread with
  | .Waiting client _ :: _ => some client
  | _ => none

variable [DecidableEq κ] [DecidableEq η]

-- The lock is about to be kept over a method of the parent: in a query that
-- finds one, or in a call on the I/O thread that dispatches its closure inline.
def State.nesting (state : State κ η ρ) (kind : κ → Kind) (thread : Thread η) : Bool :=
  match state.stack thread with
  | .Inside client (.Query ..) :: _ => (state.client client).parent.isSome
  | .Inside client (.Post ..) :: _ =>
      (state.client client).active && decide (inline (kind client) thread)
  | _ => false

def Unnested (kind : κ → Kind) (_ : List (Event κ η ρ)) (state : State κ η ρ) :
    Label κ η ρ → Prop
  | .Run thread => state.nesting kind thread = false
  | _ => True

instance (kind : κ → Kind) (trace : List (Event κ η ρ)) (state : State κ η ρ) (label : Label κ η ρ) :
    Decidable (Unnested kind trace state label) :=
  match label with
  | .Run _ => inferInstanceAs (Decidable (_ = _))
  | .Construct .. | .Reparent .. | .Destroy _ | .Callback .. | .Execute | .Invoke .. | .Clone ..
  | .Drop .. | .Join .. | .Finish _ | .Lock _ | .Return .. => isTrue trivial

-- The I/O thread waits in a callback for a reader that waits for a mutex of
-- the I/O thread.
structure Deadlocked (state : State κ η ρ) (reader : η) (client : κ) : Prop where
  joins : state.joins .Io = some reader
  unfinished : state.finished reader = false
  awaits : state.awaits (.App reader) = some client
  owns : 0 < (state.client client).mutex.count .Io

variable {kind : κ → Kind}

omit [DecidableEq κ] in
theorem Enters.unkept {state : State κ η ρ} {label : Label κ η ρ} {thread : Thread η}
    {frame : Frame κ η ρ} {trace : List (Event κ η ρ)} (hnew : Enters kind state label thread frame)
    (hguard : Unnested kind trace state label) : frame.keeps = false := by
  cases hnew with
  | Queried hstack hparent =>
      have hquery : state.nesting kind thread = false := hguard
      simp [State.nesting, hstack, hparent] at hquery
  | Dispatch hstack hactive hinline =>
      have hpost : state.nesting kind thread = false := hguard
      simp [State.nesting, hstack, hactive, hinline] at hpost
  | _ => rfl

theorem run_unkept {trace : List (Event κ η ρ)} {last : State κ η ρ}
    (hrun : Run (machine kind) (Unnested kind) .new trace last) :
    EveryFrame (fun _ frame => frame.keeps = false) last :=
  hrun.invariant (fun _ state => EveryFrame (fun _ frame => frame.keeps = false) state)
    (everyFrame_new _)
    fun _ _ _ _ _ he hguard hstep => (step_move hstep).everyFrame he fun _ _ hnew => hnew.unkept hguard

-- Then a lock is held in a section only, and the section is on top.
theorem Sound.inside {state : State κ η ρ} {thread : Thread η} {client : κ} (hs : Sound state)
    (he : EveryFrame (fun _ frame => frame.keeps = false) state)
    (hcount : 0 < (state.client client).mutex.count thread) :
    ∃ todo rest, state.stack thread = .Inside client todo :: rest := by
  rw [hs.counted client thread] at hcount
  obtain ⟨frame, hmem, hlocks⟩ := List.countP_pos_iff.mp hcount
  have hkeeps := he thread frame hmem
  cases hstack : state.stack thread with
  | nil => simp [hstack] at hmem
  | cons top rest =>
      rw [hstack] at hmem
      rcases List.mem_cons.mp hmem with rfl | htail
      · cases frame with
        | Inside other todo =>
            obtain rfl : other = client := by simpa [Frame.locks] using hlocks
            exact ⟨todo, rest, rfl⟩
        | Queried | Dispatching => cases hkeeps
        | _ => cases hlocks
      · have hrests := hs.rested.tail hstack frame htail
        cases frame with
        | Queried | Dispatching => cases hkeeps
        | Parent | Callback => cases hlocks
        | _ => cases hrests

-- A section never waits once it has its lock.
theorem inside_runs {state : State κ η ρ} {thread : Thread η} {client : κ} {todo : Section η ρ}
    {rest : List (Frame κ η ρ)} (hs : Sound state)
    (hstack : state.stack thread = .Inside client todo :: rest) :
    ∃ after seen, step kind state (.Run thread) = some (after, seen) := by
  have hcount := hs.holds (mem_stack_of_tail hstack).1 (decide_eq_true rfl)
  obtain ⟨mutex, hunlock⟩ := Mutex.unlock_of_count hcount
  cases todo with
  | Post id call method =>
      by_cases hactive : (state.client client).active
      · by_cases hinline : inline (kind client) thread
        · exact ⟨_, _, step_of_move (.Dispatched hstack hactive hinline)⟩
        · exact ⟨_, _, step_of_move (.Posted hstack hactive hinline hunlock)⟩
      · exact ⟨_, _, step_of_move (.Inactive (.inl ⟨hstack, hactive⟩) hunlock)⟩
  | Query id call method =>
      cases hparent : (state.client client).parent with
      | none => exact ⟨_, _, step_of_move (.Inactive (.inr ⟨hstack, hparent⟩) hunlock)⟩
      | some parent => exact ⟨_, _, step_of_move (.Queried hstack hparent)⟩
  | Fetch id method => exact ⟨_, _, step_of_move (.ParentFetched hstack hunlock)⟩
  | Reparent parent => exact ⟨_, _, step_of_move (.Reparented hstack hunlock)⟩
  | Detach => exact ⟨_, _, step_of_move (.Detached hstack hunlock)⟩

-- A method of the parent runs on top of a thread that has locked the client.
def Nested (state : State κ η ρ) (thread : Thread η) (client : κ) : Prop :=
  (∃ top rest, state.stack thread = top :: rest ∧ top.executes) ∧
    0 < (state.client client).mutex.count thread

theorem query_nests {state : State κ η ρ} {thread : Thread η} {client : κ} {id : Ticket η} {call : Call}
    {method : Method} {rest : List (Frame κ η ρ)} {parent : ρ} (hs : Sound state)
    (hstack : state.stack thread = .Inside client (.Query id call method) :: rest)
    (hparent : (state.client client).parent = some parent) :
    ∃ trace after, Reaches (machine kind) state trace after ∧ Nested after thread client :=
  ⟨_, _, reaches_move .Start (.Queried hstack hparent),
    ⟨_, _, State.stack_goto_self _ _ _, rfl⟩,
    hs.holds (mem_stack_of_tail hstack).1 (decide_eq_true rfl)⟩

-- The closure of a dispatch on the I/O thread locks again, unlocks once and
-- enters the parent with the lock of the call still held.
theorem dispatch_nests {state : State κ η ρ} {client : κ} {id : Ticket η} {call : Call} {method : Method}
    {rest : List (Frame κ η ρ)} (hs : Sound state)
    (hstack : state.stack .Io = .Inside client (.Post id call method) :: rest)
    (hactive : (state.client client).active) (hkind : kind client = .Tun) :
    ∃ trace after, Reaches (machine kind) state trace after ∧ Nested after .Io client := by
  obtain ⟨parent, hparent⟩ : ∃ parent, (state.client client).parent = some parent := by
    simp only [Client.active, Bool.and_eq_true] at hactive
    exact Option.isSome_iff_exists.mp hactive.2
  have hcount := hs.holds (mem_stack_of_tail hstack).1 (decide_eq_true rfl)
  obtain ⟨relocked, hrelock⟩ := Mutex.relock hcount
  have hagain := Mutex.count_lock hrelock .Io
  obtain ⟨unlocked, hunlock⟩ : ∃ next, relocked.unlock .Io = some next :=
    Mutex.unlock_of_count (by omega)
  let dispatched := state.goto .Io
    (.Waiting client (.Fetch id method) :: .Dispatching client id call :: rest)
  let locked := (dispatched.setMutex client relocked).goto .Io
    (.Inside client (.Fetch id method) :: .Dispatching client id call :: rest)
  let fetched := (locked.setMutex client unlocked).goto .Io
    (.Fetched client id method (locked.client client).parent :: .Dispatching client id call :: rest)
  have hdispatched : Move kind state (.Run .Io) dispatched [.Accepted .Io client id method] :=
    .Dispatched hstack hactive ⟨hkind, rfl⟩
  have hlocked : Move kind dispatched (.Lock .Io) locked [] :=
    .Locked (State.stack_goto_self _ _ _) (by rw [hkind]; exact hrelock)
  have hfetched : Move kind locked (.Run .Io) fetched [] :=
    .ParentFetched (State.stack_goto_self _ _ _)
      (by simpa [locked, State.setMutex] using hunlock)
  have hsome : (locked.client client).parent = some parent := by
    simpa [locked, dispatched, State.setMutex] using hparent
  have hentered : Move kind fetched (.Run .Io)
      (fetched.goto .Io (.Parent client parent id method :: .Dispatching client id call :: rest))
      [.Entered .Io client parent id method] :=
    .ParentEntered (by simp [fetched, hsome])
  have hrun := reaches_move (reaches_move (reaches_move (reaches_move .Start hdispatched) hlocked)
    hfetched) hentered
  refine ⟨_, _, hrun, ⟨_, _, State.stack_goto_self _ _ _, rfl⟩, ?_⟩
  exact (hs.reaches hrun).holds
    ((mem_stack_of_tail (State.stack_goto_self _ _ _)).2 _ List.mem_cons_self) (decide_eq_true rfl)

omit [DecidableEq κ] [DecidableEq η] in
theorem State.stack_of_joins {state : State κ η ρ} {thread : Thread η} {reader : η}
    (hj : state.joins thread = some reader) : ∃ rest, state.stack thread = .Joining reader :: rest := by
  unfold joins at hj
  split at hj
  · rename_i other rest hstack
    obtain rfl := Option.some.inj hj
    exact ⟨rest, hstack⟩
  · cases hj

omit [DecidableEq κ] [DecidableEq η] in
theorem State.stack_of_awaits {state : State κ η ρ} {thread : Thread η} {client : κ}
    (ha : state.awaits thread = some client) :
    ∃ todo rest, state.stack thread = .Waiting client todo :: rest := by
  unfold awaits at ha
  split at ha
  · rename_i other todo rest hstack
    obtain rfl := Option.some.inj ha
    exact ⟨todo, rest, hstack⟩
  · cases ha

-- The frames that keep their thread from going on.
def Frame.blocks : Frame κ η ρ → Bool
  | .Waiting .. | .Joining _ => true
  | _ => false

omit [DecidableEq κ] [DecidableEq η] in
theorem Frame.not_rests {frame : Frame κ η ρ} (hblocks : frame.blocks = true) : ¬frame.rests = true := by
  cases frame with
  | Waiting client todo => exact Bool.false_ne_true
  | Joining reader => exact Bool.false_ne_true
  | _ => cases hblocks

-- A blocked thread goes on in two ways: its reader has finished, or it gets the mutex.
theorem Move.of_blocked {state after : State κ η ρ} {label : Label κ η ρ} {seen : List (Event κ η ρ)}
    {frame : Frame κ η ρ} {below : List (Frame κ η ρ)} (hm : Move kind state label after seen)
    (hstack : state.stack label.thread = frame :: below) (hblocks : frame.blocks = true) :
    (∃ reader, frame = .Joining reader ∧ state.finished reader = true) ∨
      ∃ client todo mutex, frame = .Waiting client todo ∧
        (state.client client).mutex.lock (kind client).discipline label.thread = some mutex := by
  cases hm with
  | Joined hjoin hfinished =>
      obtain ⟨rfl, -⟩ := List.cons.inj (hjoin.symm.trans hstack)
      exact .inl ⟨_, rfl, hfinished⟩
  | Locked hwait hlock =>
      obtain ⟨rfl, -⟩ := List.cons.inj (hwait.symm.trans hstack)
      exact .inr ⟨_, _, _, rfl, hlock⟩
  | Constructed hcore | ReparentBegun hcore | DestroyBegun hcore | CallbackBegun hcore =>
      exact absurd (State.inCore_top hcore frame (congrArg List.head? hstack)) (Frame.not_rests hblocks)
  | Refused happ | Invoked happ | Cloned happ | Dropped happ =>
      exact absurd (State.inApp_top happ frame (congrArg List.head? hstack)) (Frame.not_rests hblocks)
  | Inactive hinside =>
      rcases hinside with ⟨hinside, -⟩ | ⟨hinside, -⟩
      · obtain ⟨rfl, -⟩ := List.cons.inj (hinside.symm.trans hstack)
        cases hblocks
      · obtain ⟨rfl, -⟩ := List.cons.inj (hinside.symm.trans hstack)
        cases hblocks
  | Executed hempty | Finished hempty => cases hempty.symm.trans hstack
  | JoinBegun hother | Dispatched hother | Posted hother | Queried hother | ParentFetched hother
  | Reparented hother | Detached hother | Skipped hother | ParentEntered hother | ParentLeft hother
  | QueryLeft hother | DispatchLeft hother | CallbackLeft hother =>
      obtain ⟨rfl, -⟩ := List.cons.inj (hother.symm.trans hstack)
      cases hblocks

-- A thread in a join goes on when its reader has finished.
theorem Move.of_joins {state after : State κ η ρ} {label : Label κ η ρ} {seen : List (Event κ η ρ)}
    {reader : η} (hm : Move kind state label after seen)
    (hj : state.joins label.thread = some reader) : state.finished reader = true := by
  obtain ⟨below, hstack⟩ := State.stack_of_joins hj
  rcases hm.of_blocked hstack rfl with ⟨other, he, hfinished⟩ | ⟨client, todo, mutex, he, -⟩
  · obtain rfl := Frame.Joining.inj he
    exact hfinished
  · cases he

-- A thread that waits for a mutex goes on when it gets it.
theorem Move.of_awaits {state after : State κ η ρ} {label : Label κ η ρ} {seen : List (Event κ η ρ)}
    {client : κ} (hm : Move kind state label after seen)
    (ha : state.awaits label.thread = some client) :
    ∃ mutex, (state.client client).mutex.lock (kind client).discipline label.thread = some mutex := by
  obtain ⟨todo, below, hstack⟩ := State.stack_of_awaits ha
  rcases hm.of_blocked hstack rfl with ⟨reader, he, -⟩ | ⟨other, part, mutex, he, hlock⟩
  · cases he
  · obtain ⟨rfl, -⟩ := Frame.Waiting.inj he
    exact ⟨mutex, hlock⟩

theorem Move.finished_other {state after : State κ η ρ} {label : Label κ η ρ}
    {seen : List (Event κ η ρ)} {reader : η} (hm : Move kind state label after seen)
    (hne : .App reader ≠ label.thread) : after.finished reader = state.finished reader := by
  cases hm with
  | @Finished other =>
      have hreader : reader ≠ other := fun he => hne (congrArg Thread.App he)
      exact if_neg hreader
  | _ => rfl

-- Neither of the two threads ever goes on.
theorem Deadlocked.step {state after : State κ η ρ} {label : Label κ η ρ}
    {seen : List (Event κ η ρ)} {reader : η} {client : κ} (hd : Deadlocked state reader client)
    (hs : Sound state) (hafter : Sound after) (hm : Move kind state label after seen) :
    Deadlocked after reader client := by
  have hio : .Io ≠ label.thread := by
    intro he
    have hfinished := hm.of_joins (he ▸ hd.joins)
    rw [hd.unfinished] at hfinished
    cases hfinished
  have happ : .App reader ≠ label.thread := by
    intro he
    obtain ⟨mutex, hlock⟩ := hm.of_awaits (he ▸ hd.awaits)
    have howner := Mutex.eq_of_lock hlock hd.owns
    rw [← he] at howner
    cases howner
  have hstack := hm.stack_other hio
  refine ⟨?_, ?_, ?_, ?_⟩
  · simpa only [State.joins, hstack] using hd.joins
  · rw [hm.finished_other happ, hd.unfinished]
  · simpa only [State.awaits, hm.stack_other happ] using hd.awaits
  · rw [hafter.counted client .Io, hstack, ← hs.counted client .Io]
    exact hd.owns

theorem deadlocked_forever {state last : State κ η ρ} {trace : List (Event κ η ρ)} {reader : η}
    {client : κ} (hd : Deadlocked state reader client) (hs : Sound state)
    (hrun : Reaches (machine kind) state trace last) : Deadlocked last reader client :=
  hrun.invariant_with (fun _ state => Sound state) (fun _ state => Deadlocked state reader client)
    (fun _ _ h => hs.reaches h.reaches) hd
    fun _ _ _ _ _ hs hd _ hstep => hd.step hs (hs.step hstep) (step_move hstep)

theorem nesting_nests {state : State κ η ρ} {thread : Thread η} (hs : Sound state)
    (hn : state.nesting kind thread) :
    ∃ trace after client, Reaches (machine kind) state trace after ∧ Nested after thread client := by
  unfold State.nesting at hn
  split at hn
  · rename_i client id call method rest hstack
    obtain ⟨parent, hparent⟩ := Option.isSome_iff_exists.mp hn
    obtain ⟨trace, after, hrun, hnested⟩ := query_nests hs hstack hparent
    exact ⟨trace, after, client, hrun, hnested⟩
  · rename_i client id call method rest hstack
    obtain ⟨hactive, hinline⟩ := Bool.and_eq_true_iff.mp hn
    obtain ⟨hkind, rfl⟩ := of_decide_eq_true hinline
    obtain ⟨trace, after, hrun, hnested⟩ := dispatch_nests hs hstack hactive hkind
    exact ⟨trace, after, client, hrun, hnested⟩
  · cases hn

-- In a run without such calls a lock is held in its own section only, by a
-- thread that can go on: no method of a parent runs under a lock, and no join
-- is stuck. Any other call leads to a method that runs under its lock.
theorem locks_not_across {trace : List (Event κ η ρ)} {last : State κ η ρ}
    (hrun : Run (machine kind) (Unnested kind) .new trace last) :
    (∀ thread client, ¬Nested last thread client) ∧
      (∀ reader client, ¬Deadlocked last reader client) ∧
      (∀ thread client, 0 < (last.client client).mutex.count thread →
        (∃ todo rest, last.stack thread = .Inside client todo :: rest) ∧
          ∃ after seen, step kind last (.Run thread) = some (after, seen)) ∧
      ∀ thread, last.nesting kind thread → ∃ more after client,
        Reaches (machine kind) last more after ∧ Nested after thread client := by
  have hs := run_sound hrun
  have hkept := run_unkept hrun
  refine ⟨?_, ?_, ?_, fun _ hn => nesting_nests hs hn⟩
  · rintro thread client ⟨⟨top, rest, hstack, hexecutes⟩, hcount⟩
    obtain ⟨todo, below, hinside⟩ := hs.inside hkept hcount
    rw [hstack] at hinside
    obtain ⟨rfl, -⟩ := List.cons.inj hinside
    cases hexecutes
  · intro reader client hd
    obtain ⟨todo, below, hinside⟩ := hs.inside hkept hd.owns
    have hjoins := hd.joins
    simp [State.joins, hinside] at hjoins
  · intro thread client hcount
    obtain ⟨todo, rest, hinside⟩ := hs.inside hkept hcount
    exact ⟨⟨todo, rest, hinside⟩, inside_runs hs hinside⟩

end Nesting

-- The start callback of a TUN reports an error, which the parent's method
-- answers with a stop; the reader that stop waits for is in its own receive.
def reports : List (Label Unit (Fin 1) (Fin 1)) :=
  [.Construct () 0, .Callback .Io () .Start, .Invoke .Io () (.Tun (.ErrorWithCode 7 "reader")),
    .Lock .Io, .Run .Io, .Lock .Io, .Run .Io, .Run .Io]

def stops : List (Label Unit (Fin 1) (Fin 1)) :=
  [.Invoke (.App 0) () (.Tun (.Receive [1, 2])), .Callback .Io () .Stop, .Join .Io 0]

theorem reader_deadlocked :
    (∃ trace last, Reaches (machine fun _ => .Tun) (State.new : State Unit (Fin 1) (Fin 1)) trace last ∧
      Nested last .Io ()) ∧
    ∃ trace last, Reaches (machine fun _ => .Tun) (State.new : State Unit (Fin 1) (Fin 1)) trace last ∧
      Deadlocked last 0 () ∧ ∀ more final,
        Reaches (machine fun _ => .Tun) last more final → Deadlocked final 0 () := by
  constructor
  · obtain ⟨trace, last, hrun, hstack, hcount⟩ : ∃ trace last,
        Reaches (machine fun _ => .Tun) (State.new : State Unit (Fin 1) (Fin 1)) trace last ∧
          ((last.stack .Io).head?.any Frame.executes = true ∧
            0 < (last.client ()).mutex.count .Io) := exists_run reports (by decide)
    obtain ⟨top, htop, hexecutes⟩ := (Option.any_eq_true _ _).mp hstack
    obtain ⟨rest, hrest⟩ := List.head?_eq_some_iff.mp htop
    exact ⟨trace, last, hrun, ⟨top, rest, hrest, hexecutes⟩, hcount⟩
  · obtain ⟨trace, last, hrun, hjoins, hunfinished, hawaits, howns⟩ : ∃ trace last,
        Reaches (machine fun _ => .Tun) (State.new : State Unit (Fin 1) (Fin 1)) trace last ∧
          (last.joins .Io = some 0 ∧ last.finished 0 = false ∧ last.awaits (.App 0) = some () ∧
            0 < (last.client ()).mutex.count .Io) := exists_run (reports ++ stops) (by decide)
    have hd : Deadlocked last 0 () := ⟨hjoins, hunfinished, hawaits, howns⟩
    exact ⟨trace, last, hrun, hd, fun _ _ hmore => deadlocked_forever hd (run_sound hrun) hmore⟩

-- The reader reports the error instead, so that it comes from the queue.
def reportsLater : List (Label Unit (Fin 1) (Fin 1)) :=
  [.Construct () 0, .Callback .Io () .Start, .Return .Io .none,
    .Invoke (.App 0) () (.Tun (.ErrorWithCode 7 "reader")), .Lock (.App 0), .Run (.App 0),
    .Execute, .Lock .Io, .Run .Io, .Run .Io] ++ stops

theorem locks_not_across_reported : ∃ trace last,
    Run (machine fun _ => .Tun) (Unnested fun _ => .Tun) (State.new : State Unit (Fin 1) (Fin 1))
      trace last ∧
      last.joins .Io = some 0 ∧ last.awaits (.App 0) = some () ∧
      ∀ reader client, ¬Deadlocked last reader client := by
  obtain ⟨trace, last, hrun, hjoins, hawaits⟩ : ∃ trace last,
      Run (machine fun _ => .Tun) (Unnested fun _ => .Tun) (State.new : State Unit (Fin 1) (Fin 1))
        trace last ∧ (last.joins .Io = some 0 ∧ last.awaits (.App 0) = some ()) :=
    exists_run reportsLater (by decide)
  exact ⟨trace, last, hrun, hjoins, hawaits, (locks_not_across hrun).2.1⟩

end OpenvpnConnect.External
