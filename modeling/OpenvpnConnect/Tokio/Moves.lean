import OpenvpnConnect.Client.Moves
import OpenvpnConnect.Tokio.Basic

namespace OpenvpnConnect.Tokio

open Transition
open OpenvpnConnect.Client (Outcome Lifecycle)

-- The driver waits for its worker.
def Driver.joinable : Driver → Bool
  | .Select | .AwaitJoin => true
  | _ => false

-- The steps of one session that leave the synchronous client alone.
inductive Session.Move {η φ : Type} (capacity : Nat) (future : φ) (session : Session η) :
    Session η → List (Event φ η) → Prop
  | CommandTaken (command : Command) (rest : List Command) : session.driver = .Select →
      session.commands = command :: rest → session.commandsOpen = true →
      Session.Move capacity future session
        { session with commands := rest, driver := .RunCommand command } []
  | CommandsClosed : session.driver = .Select → session.senders = 0 → session.commands = [] →
      session.commandsOpen = true →
      Session.Move capacity future session { session with commandsOpen := false } []
  | CommandRun (command : Command) : session.driver = .RunCommand command →
      Session.Move capacity future session { session with driver := .Select }
        [.Executing future command]
  | Completed (result : Outcome) : session.driver = .Complete result →
      Session.Move capacity future session
        { session with
          driver := .Exited
          receiving := false
          completion := if session.completion = .Pending then .Sent result else session.completion } []
  | Sent (command : Command) : session.object.born = true → 0 < session.senders →
      session.receiving = true → session.commands.length < capacity →
      Session.Move capacity future session { session with commands := session.commands ++ [command] } []
  | HandleCloned : session.object.born = true → 0 < session.senders →
      Session.Move capacity future session { session with senders := session.senders + 1 } []
  | HandleDropped : session.spare = true →
      Session.Move capacity future session { session with senders := session.senders - 1 } []
  | TokenCancelled : session.object.born = true →
      Session.Move capacity future session { session with cancelled := true } [.Cancelled future]
  | Resolved (result : Outcome) : session.object = .Live → session.completion = .Sent result →
      Session.Move capacity future session { session with object := .Completed }
        [.Resolved future result]
  | Released : session.object = .Completed →
      Session.Move capacity future session
        { session with object := .Dropped, senders := session.senders - 1 } []

-- Why an actor of a session calls core.stop(), and what it does to the session first.
inductive Cause {φ η : Type} (session : Session η) : Actor φ η → Session η → List (Event φ η) → Prop
  | Joined (future : φ) (outcome : Outcome) : session.driver.joinable = true →
      session.worker = .Done outcome →
      Cause session (.Driver future) { session with driver := .GuardStop outcome } []
  | Token (future : φ) : session.driver = .Select → session.cancelled = true →
      Cause session (.Driver future) { session with driver := .CancelStop } []
  | Command (future : φ) : session.driver = .RunCommand .Stop →
      Cause session (.Driver future) { session with driver := .StopCommand } [.Executing future .Stop]
  | Cancel (future : φ) (thread : η) : session.object.born = true →
      Cause session (.Holder future thread) { session with cancelled := true } [.Cancelled future]
  | Drop (future : φ) (thread : η) : session.object = .Live →
      Cause session (.Holder future thread)
        { session with object := .Dropping thread, cancelled := true } [.Cancelled future]

def Actor.future {φ η : Type} : Actor φ η → φ
  | .Job future | .Worker future | .Driver future | .Holder future _ => future

def Mutation.call : Mutation → Client.Call
  | .Evaluate _ => .Evaluate
  | .ProvideCredentials => .ProvideCredentials
  | .CallbackSelfTest => .CallbackSelfTest

-- Where a job starts on the synchronous client.
def Mutation.frame : Mutation → Client.Frame
  | .Evaluate _ => .EvaluateLock
  | .ProvideCredentials => .CredentialsLock
  | .CallbackSelfTest => .SelfTestNative

section Moves

variable {φ η : Type} [DecidableEq φ] [DecidableEq η]

-- What an update leaves alone, and what it makes of its own field.
omit [DecidableEq η] in
@[simp, grind =] theorem State.core_goto (state : State φ η) (future : φ) (next : Future) :
    (state.goto future next).core = state.core := rfl

omit [DecidableEq η] in
@[simp, grind =] theorem State.setup_goto (state : State φ η) (future : φ) (next : Future) :
    (state.goto future next).setup = state.setup := rfl

omit [DecidableEq η] in
@[simp, grind =] theorem State.sessionActive_goto (state : State φ η) (future : φ) (next : Future) :
    (state.goto future next).sessionActive = state.sessionActive := rfl

omit [DecidableEq η] in
@[simp, grind =] theorem State.job_goto (state : State φ η) (future other : φ) (next : Future) :
    (state.goto future next).job other = state.job other := rfl

omit [DecidableEq η] in
@[simp, grind =] theorem State.session_goto (state : State φ η) (future other : φ) (next : Future) :
    (state.goto future next).session other = state.session other := rfl

omit [DecidableEq η] in
@[grind =] theorem State.future_goto (state : State φ η) (future other : φ) (next : Future) :
    (state.goto future next).future other = if other = future then next else state.future other := rfl

omit [DecidableEq η] in
@[simp, grind =] theorem State.core_setJob (state : State φ η) (future : φ) (job : Job) :
    (state.setJob future job).core = state.core := rfl

omit [DecidableEq η] in
@[simp, grind =] theorem State.setup_setJob (state : State φ η) (future : φ) (job : Job) :
    (state.setJob future job).setup = state.setup := rfl

omit [DecidableEq η] in
@[simp, grind =] theorem State.sessionActive_setJob (state : State φ η) (future : φ) (job : Job) :
    (state.setJob future job).sessionActive = state.sessionActive := rfl

omit [DecidableEq η] in
@[simp, grind =] theorem State.future_setJob (state : State φ η) (future other : φ) (job : Job) :
    (state.setJob future job).future other = state.future other := rfl

omit [DecidableEq η] in
@[simp, grind =] theorem State.session_setJob (state : State φ η) (future other : φ) (job : Job) :
    (state.setJob future job).session other = state.session other := rfl

omit [DecidableEq η] in
@[grind =] theorem State.job_setJob (state : State φ η) (future other : φ) (job : Job) :
    (state.setJob future job).job other = if other = future then job else state.job other := rfl

omit [DecidableEq η] in
@[simp, grind =] theorem State.core_setSession (state : State φ η) (future : φ) (session : Session η) :
    (state.setSession future session).core = state.core := rfl

omit [DecidableEq η] in
@[simp, grind =] theorem State.setup_setSession (state : State φ η) (future : φ) (session : Session η) :
    (state.setSession future session).setup = state.setup := rfl

omit [DecidableEq η] in
@[simp, grind =] theorem State.sessionActive_setSession (state : State φ η) (future : φ) (session : Session η) :
    (state.setSession future session).sessionActive = state.sessionActive := rfl

omit [DecidableEq η] in
@[simp, grind =] theorem State.future_setSession (state : State φ η) (future other : φ) (session : Session η) :
    (state.setSession future session).future other = state.future other := rfl

omit [DecidableEq η] in
@[simp, grind =] theorem State.job_setSession (state : State φ η) (future other : φ) (session : Session η) :
    (state.setSession future session).job other = state.job other := rfl

omit [DecidableEq η] in
@[grind =] theorem State.session_setSession (state : State φ η) (future other : φ) (session : Session η) :
    (state.setSession future session).session other = if other = future then some session else state.session other := rfl

omit [DecidableEq η] in
@[simp, grind =] theorem State.core_update (state : State φ η) (future : φ) (change : Session η → Session η) :
    (state.update future change).core = state.core := rfl

omit [DecidableEq η] in
@[simp, grind =] theorem State.setup_update (state : State φ η) (future : φ) (change : Session η → Session η) :
    (state.update future change).setup = state.setup := rfl

omit [DecidableEq η] in
@[simp, grind =] theorem State.sessionActive_update (state : State φ η) (future : φ) (change : Session η → Session η) :
    (state.update future change).sessionActive = state.sessionActive := rfl

omit [DecidableEq η] in
@[simp, grind =] theorem State.future_update (state : State φ η) (future other : φ) (change : Session η → Session η) :
    (state.update future change).future other = state.future other := rfl

omit [DecidableEq η] in
@[simp, grind =] theorem State.job_update (state : State φ η) (future other : φ) (change : Session η → Session η) :
    (state.update future change).job other = state.job other := rfl

omit [DecidableEq η] in
@[grind =] theorem State.session_update (state : State φ η) (future other : φ) (change : Session η → Session η) :
    (state.update future change).session other =
      if other = future then (state.session other).map change else state.session other := rfl

-- An actor enters a call on the synchronous client.
def State.calls (state : State φ η) (actor : Actor φ η) (frame : Client.Frame) : State φ η :=
  { state with core := state.core.enter actor frame }

@[simp, grind =] theorem State.future_calls (state : State φ η) (actor : Actor φ η)
    (frame : Client.Frame) (future : φ) :
    (state.calls actor frame).future future = state.future future := rfl

@[simp, grind =] theorem State.session_calls (state : State φ η) (actor : Actor φ η)
    (frame : Client.Frame) (future : φ) :
    (state.calls actor frame).session future = state.session future := rfl

-- Everything that a step can do: first what only sets a future, its job and
-- the setup mutex, then what also sets its session, then the calls on the
-- synchronous client and their steps.
inductive Move (capabilities : Capabilities) (capacity : Nat) (state : State φ η) :
    State φ η → List (Event φ η) → Prop
  | Begun (future : φ) (operation : Operation) : state.future future = .Unpolled →
      Move capabilities capacity state (state.goto future (.AwaitSetup operation)) [.Begun future operation]
  | LockedConnect (future : φ) : state.setup = none → state.future future = .AwaitSetup .Connect →
      Move capabilities capacity state ({ state with setup := some future }.goto future .EnsureConnectable) []
  | Locked (future : φ) (mutation : Mutation) : state.setup = none →
      state.future future = .AwaitSetup (.Mutate mutation) →
      Move capabilities capacity state ({ state with setup := some future }.goto future (.EnsureIdle mutation)) []
  | NotIdle (future : φ) (mutation : Mutation) (message : String) :
      state.future future = .EnsureIdle mutation → state.sessionActive = true →
      Move capabilities capacity state (ready state future (.Err (.InvalidState message))).1
        (ready state future (.Err (.InvalidState message))).2
  | JobSpawned (future : φ) (mutation : Mutation) :
      state.future future = .EnsureIdle mutation → state.sessionActive = false →
      Move capabilities capacity state ((state.goto future .AwaitJob).setJob future (.Queued mutation)) []
  | NotConnectable (future : φ) (message : String) : state.future future = .EnsureConnectable →
      state.core.lifecycle ≠ .Ready →
      Move capabilities capacity state (ready state future (.Err (.InvalidState message))).1
        (ready state future (.Err (.InvalidState message))).2
  | Connectable (future : φ) : state.future future = .EnsureConnectable →
      state.core.lifecycle = .Ready →
      Move capabilities capacity state (state.goto future .CompareExchange) []
  | ExchangeLost (future : φ) (message : String) : state.future future = .CompareExchange →
      state.sessionActive = true →
      Move capabilities capacity state (ready state future (.Err (.InvalidState message))).1
        (ready state future (.Err (.InvalidState message))).2
  | JobReady (future : φ) (outcome : Outcome) : state.future future = .AwaitJob →
      state.job future = .Done outcome →
      Move capabilities capacity state (state.goto future (.Ready outcome)) [.Ready future outcome]
  | Dropped (future : φ) :
      (state.future future = .Unpolled ∨ state.future future = .AwaitJob ∨
        ∃ operation, state.future future = .AwaitSetup operation) →
      Move capabilities capacity state (state.goto future .Dropped) []
  | Exchanged (future : φ) : state.future future = .CompareExchange → state.sessionActive = false →
      Move capabilities capacity state
        (({ state with sessionActive := true }.goto future .AwaitStarted).setSession future spawnDriver)
        [.Exchanged future]
  | Connected (future : φ) (session : Session η) : state.future future = .AwaitStarted →
      state.session future = some session → session.started = .Sent →
      Move capabilities capacity state
        (({ state with setup := none }.goto future (.Ready .Ok)).setSession future
          { session with object := .Live }) [.Connected future, .Ready future .Ok]
  | NeverStarted (future : φ) (session : Session η) (outcome : Outcome) :
      state.future future = .AwaitStarted →
      state.session future = some session → session.started = .Closed →
      Move capabilities capacity state
        (({ state with sessionActive := false, setup := none }.goto future (.Ready outcome)).setSession
          future { session with senders := session.senders - 1, completion := .Closed })
        [.Ready future outcome]
  | Abandoned (future : φ) (session : Session η) : state.future future = .AwaitStarted →
      state.session future = some session →
      Move capabilities capacity state
        (({ state with setup := none }.goto future .Dropped).setSession future
          { session with senders := session.senders - 1, completion := .Closed })
        [.Abandoned future]
  | SessionMoved (future : φ) {session next : Session η} {seen : List (Event φ η)} :
      state.session future = some session → session.Move capacity future next seen →
      Move capabilities capacity state (state.setSession future next) seen
  | GuardCleared (future : φ) (session : Session η) (result : Outcome) :
      state.session future = some session → session.driver = .GuardClear result →
      Move capabilities capacity state
        ({ state with sessionActive := false }.setSession future
          { session with driver := .Complete result }) [.Cleared future]
  | JobRefused (future : φ) (config : Config) (error : Error) :
      state.job future = .Queued (.Evaluate config) →
      config.validateCapabilities capabilities = .error error → state.core.callable (.Job future) →
      Move capabilities capacity state ({ state with setup := none }.setJob future (.Done (.Err error)))
        [.Core (.Called (.Job future) .Evaluate), .Core (.Returned (.Job future) .Evaluate (.Err error))]
  | JobRun (future : φ) (mutation : Mutation) : state.job future = .Queued mutation →
      (∀ config, mutation = .Evaluate config → config.validateCapabilities capabilities = .ok ()) →
      state.core.callable (.Job future) →
      Move capabilities capacity state
        ((state.setJob future .Running).calls (.Job future) mutation.frame)
        (.Core (.Called (.Job future) mutation.call) ::
          if mutation = .CallbackSelfTest then [.Core (.SelfTestEnter (.Job future))] else [])
  | WorkerRun (future : φ) (session : Session η) : state.session future = some session →
      session.worker = .Queued → state.core.callable (.Worker future) →
      Move capabilities capacity state
        ((state.setSession future { session with worker := .Running }).calls (.Worker future)
          (.PrepareLock true)) [.Core (.Called (.Worker future) .ConnectWithStarted)]
  | StopCalled (actor : Actor φ η) {session next : Session η} {front : List (Event φ η)} :
      state.session actor.future = some session → Cause session actor next front →
      state.core.callable actor →
      Move capabilities capacity state ((state.setSession actor.future next).calls actor .StopSwap)
        (front ++ [.Core (.Called actor .Stop)])
  | CoreMoved (actor : Actor φ η) {label : Client.Label (Actor φ η)}
      {core : Client.State (Actor φ η)} {seen : List (Client.Event (Actor φ η))} :
      Client.step capabilities state.core label = some (core, seen) →
      Client.Move actor state.core core seen → state.core.frame actor ≠ .Idle →
      (∀ started, core.frame actor ≠ .CoreReturned started .Unwound) →
      Move capabilities capacity state (seen.foldl absorb { state with core := core }) (seen.map .Core)

variable {capabilities : Capabilities} {capacity : Nat}

theorem call_stop {state after : State φ η} {actor : Actor φ η} {seen : List (Event φ η)}
    (hs : call capabilities state (.Stop actor) = some (after, seen)) :
    state.core.callable actor ∧ after = state.calls actor .StopSwap ∧
      seen = [.Core (.Called actor .Stop)] := by
  simp only [call, Client.step] at hs
  split at hs
  · cases hs
  · rename_i core coreSeen hstep
    split at hstep <;> cases hstep
    cases hs
    exact ⟨‹_›, rfl, rfl⟩

theorem call_connect {state after : State φ η} {actor : Actor φ η} {seen : List (Event φ η)}
    (hs : call capabilities state (.Connect actor true) = some (after, seen)) :
    state.core.callable actor ∧ after = state.calls actor (.PrepareLock true) ∧
      seen = [.Core (.Called actor .ConnectWithStarted)] := by
  simp only [call, Client.step] at hs
  split at hs
  · cases hs
  · rename_i core coreSeen hstep
    split at hstep <;> cases hstep
    cases hs
    exact ⟨‹_›, rfl, rfl⟩

theorem call_core {state after : State φ η} {label : Client.Label (Actor φ η)}
    {seen : List (Event φ η)} (hs : call capabilities state label = some (after, seen)) :
    ∃ core coreSeen, Client.step capabilities state.core label = some (core, coreSeen) ∧
      after = coreSeen.foldl absorb { state with core := core } ∧ seen = coreSeen.map .Core := by
  unfold call at hs
  split at hs
  · cases hs
  · rename_i core coreSeen hstep
    cases hs
    exact ⟨core, coreSeen, hstep, rfl, rfl⟩

theorem ensureIdle_move {state : State φ η} {future : φ} {mutation : Mutation}
    (hfuture : state.future future = .EnsureIdle mutation) :
    Move capabilities capacity state (ensureIdle state future mutation).1
      (ensureIdle state future mutation).2 := by
  unfold ensureIdle
  split <;> rename_i hactive
  · exact .NotIdle future mutation _ hfuture hactive
  · exact .JobSpawned future mutation hfuture (Bool.not_eq_true _ ▸ hactive)

theorem ensureConnectable_move {state : State φ η} {future : φ}
    (hfuture : state.future future = .EnsureConnectable) :
    Move capabilities capacity state (ensureConnectable state future).1
      (ensureConnectable state future).2 := by
  unfold ensureConnectable Client.ensureConnectable
  split <;> rename_i hr
  · split at hr <;> cases hr
    rename_i hrefused
    obtain ⟨hne, message, rfl⟩ := Client.connectRefusal_eq_some hrefused
    exact .NotConnectable future message hfuture hne
  · split at hr <;> cases hr
    exact .Connectable future hfuture ((Client.connectRefusal_eq_none _).mp ‹_›)

theorem compareExchange_move {state : State φ η} {future : φ}
    (hfuture : state.future future = .CompareExchange) :
    Move capabilities capacity state (compareExchange state future).1
      (compareExchange state future).2 := by
  unfold compareExchange
  split <;> rename_i hactive
  · exact .ExchangeLost future _ hfuture hactive
  · exact .Exchanged future hfuture (Bool.not_eq_true _ ▸ hactive)

theorem Move.of_some {state after : State φ η} {seen : List (Event φ η)}
    {result : State φ η × List (Event φ η)}
    (hm : Move capabilities capacity state result.1 result.2)
    (hs : some result = some (after, seen)) : Move capabilities capacity state after seen := by
  obtain rfl := Option.some.inj hs
  exact hm

theorem poll_move {state after : State φ η} {future : φ} {seen : List (Event φ η)}
    (hs : poll state future = some (after, seen)) : Move capabilities capacity state after seen := by
  unfold poll at hs
  split at hs
  case h_1 mutation hfuture => exact (ensureIdle_move hfuture).of_some hs
  case h_2 hfuture =>
      split at hs
      · exact (ensureConnectable_move hfuture).of_some hs
      · cases hs
  case h_3 hfuture => exact (compareExchange_move hfuture).of_some hs
  case h_4 hfuture =>
      split at hs <;> cases hs
      exact .JobReady future _ hfuture ‹_›
  case h_5 hfuture =>
      split at hs
      · rename_i session hsession
        unfold awaitStarted at hs
        split at hs <;> rename_i hstarted
        · cases hs
        · cases hs
          exact .Connected future session hfuture hsession hstarted
        · cases hs
          exact .NeverStarted future session _ hfuture hsession hstarted
      · cases hs
  case h_6 => cases hs

theorem drop_move {state after : State φ η} {future : φ} {seen : List (Event φ η)}
    (hs : drop state future = some (after, seen)) : Move capabilities capacity state after seen := by
  unfold drop at hs
  split at hs
  case h_1 hfuture => cases hs; exact .Dropped future (.inl hfuture)
  case h_2 hfuture => cases hs; exact .Dropped future (.inr (.inr ⟨_, hfuture⟩))
  case h_3 hfuture => cases hs; exact .Dropped future (.inr (.inl hfuture))
  case h_4 hfuture =>
      split at hs <;> cases hs
      exact .Abandoned future _ hfuture ‹_›
  case h_5 => cases hs

theorem StopCalled_of_call {state after : State φ η} {session next : Session η} {actor : Actor φ η}
    {front seen : List (Event φ η)} (hsession : state.session actor.future = some session)
    (hcause : Cause session actor next front)
    (hs : call capabilities (state.setSession actor.future next) (.Stop actor) = some (after, seen)) :
    Move capabilities capacity state after (front ++ seen) := by
  obtain ⟨hcall, rfl, rfl⟩ := call_stop hs
  exact .StopCalled actor hsession hcause hcall

theorem drive_move {state after : State φ η} {future : φ} {session : Session η} {branch : Branch}
    {seen : List (Event φ η)} (hsession : state.session future = some session)
    (hs : drive capabilities state future session branch = some (after, seen)) :
    Move capabilities capacity state after seen := by
  unfold drive at hs
  split at hs
  case h_1 hdriver =>
      split at hs
      · exact StopCalled_of_call hsession (.Joined future _ (by rw [hdriver]; rfl) ‹_›) hs
      · cases hs
  case h_2 hdriver =>
      split at hs
      · exact StopCalled_of_call hsession (.Joined future _ (by rw [hdriver]; rfl) ‹_›) hs
      · cases hs
  case h_3 hdriver =>
      split at hs
      · exact StopCalled_of_call hsession (.Token future hdriver ‹_›) hs
      · cases hs
  case h_4 hdriver =>
      split at hs
      · rename_i hopen
        split at hs
        · rename_i hcommands
          cases hs
          exact .SessionMoved future hsession (.CommandTaken _ _ hdriver hcommands hopen)
        · rename_i hcommands
          split at hs <;> cases hs
          exact .SessionMoved future hsession (.CommandsClosed hdriver ‹_› hcommands hopen)
      · cases hs
  case h_5 hdriver =>
      split at hs
      · cases hs
      · rename_i hcall
        cases hs
        exact StopCalled_of_call hsession (.Command future hdriver) hcall
  case h_6 hdriver =>
      cases hs
      exact .SessionMoved future hsession (.CommandRun _ hdriver)
  case h_7 hdriver =>
      cases hs
      exact .GuardCleared future session _ hsession hdriver
  case h_8 hdriver =>
      cases hs
      exact .SessionMoved future hsession (.Completed _ hdriver)
  case h_9 => cases hs

theorem cancel_move {state after : State φ η} {future : φ} {session next : Session η} {thread : η}
    {seen : List (Event φ η)} (hsession : state.session future = some session)
    (hcause : Cause session (.Holder future thread) { next with cancelled := true } [.Cancelled future])
    (hs : cancel capabilities state future next thread = some (after, seen)) :
    Move capabilities capacity state after seen := by
  unfold cancel at hs
  split at hs
  · cases hs
  · rename_i hcall
    cases hs
    exact StopCalled_of_call hsession hcause hcall

theorem runJob_move {state after : State φ η} {future : φ} {mutation : Mutation}
    {seen : List (Event φ η)} (hjob : state.job future = .Queued mutation)
    (hs : call capabilities (state.setJob future .Running) (mutation.label (.Job future)) =
      some (after, seen)) : Move capabilities capacity state after seen := by
  obtain ⟨core, coreSeen, hstep, rfl, rfl⟩ := call_core hs
  cases mutation with
  | Evaluate config =>
      simp only [Mutation.label, Client.step, Client.evaluate] at hstep
      split at hstep
      · rename_i hcall
        split at hstep <;> cases hstep
        · rename_i error hinvalid
          have hm : Move capabilities capacity state _ _ :=
            .JobRefused future config error hjob hinvalid hcall
          have hset : (({ state.setJob future .Running with setup := none } : State φ η).setJob future
              (.Done (.Err error))) = { state with setup := none }.setJob future (.Done (.Err error)) := by
            simp only [State.setJob, State.mk.injEq, true_and, and_true]
            funext other
            split <;> rfl
          rw [← hset] at hm
          exact hm
        · exact .JobRun future (.Evaluate config) hjob (fun _ he => by cases he; assumption) hcall
      · cases hstep
  | ProvideCredentials =>
      simp only [Mutation.label, Client.step] at hstep
      split at hstep <;> cases hstep
      exact .JobRun future .ProvideCredentials hjob (fun _ he => by cases he) ‹_›
  | CallbackSelfTest =>
      simp only [Mutation.label, Client.step] at hstep
      split at hstep <;> cases hstep
      exact .JobRun future .CallbackSelfTest hjob (fun _ he => by cases he) ‹_›

theorem outcome_of_ne_unwound (result : Except Error Unit) : Outcome.of result ≠ .Unwound := by
  cases result <;> simp [Outcome.of]

-- The end of Core's connect carries the outcome that the native call came back with.
theorem nativeReturn_outcome {state after : Client.State (Actor φ η)} {actor : Actor φ η}
    {outcome returned : Outcome} {started : Bool} {seen : List (Client.Event (Actor φ η))}
    (hs : Client.nativeReturn state actor outcome = some (after, seen))
    (hframe : after.frame actor = .CoreReturned started returned) : returned = outcome := by
  unfold Client.nativeReturn at hs
  split at hs
  case h_1 => split at hs <;> cases hs <;> simp [Client.State.leave] at hframe
  all_goals cases hs
  all_goals simp [Client.State.leave] at hframe
  all_goals exact hframe.2.symm

theorem core_move {state after : State φ η} {actor : Actor φ η} {label : Client.Label (Actor φ η)}
    {seen : List (Event φ η)}
    (hlabel : label = .Step actor ∨ ∃ result, label = .NativeReturn actor (Outcome.of result))
    (hs : call capabilities state label = some (after, seen)) :
    Move capabilities capacity state after seen := by
  obtain ⟨core, coreSeen, hstep, rfl, rfl⟩ := call_core hs
  rcases hlabel with rfl | ⟨result, rfl⟩
  · refine .CoreMoved actor hstep (Client.stepFrame_move hstep) ?_
      fun started => Client.stepFrame_not_returned started .Unwound hstep
    intro hidle
    simp [Client.step, Client.stepFrame, hidle] at hstep
  · refine .CoreMoved actor hstep (Client.nativeReturn_move hstep) ?_ fun started hframe => ?_
    · intro hidle
      simp [Client.step, Client.nativeReturn, hidle] at hstep
    · exact outcome_of_ne_unwound result (nativeReturn_outcome hstep hframe).symm

theorem step_move {state after : State φ η} {label : Label φ η} {seen : List (Event φ η)}
    (hs : step capabilities capacity state label = some (after, seen)) :
    Move capabilities capacity state after seen := by
  cases label with
  | Begin future operation =>
      simp only [step] at hs
      split at hs <;> cases hs
      exact .Begun future operation ‹_›
  | Lock future =>
      simp only [step] at hs
      split at hs
      · split at hs <;> cases hs
        · exact .LockedConnect future ‹_› ‹_›
        · exact .Locked future _ ‹_› ‹_›
      · cases hs
  | Poll future => exact poll_move hs
  | Drop future => exact drop_move hs
  | RunJob future =>
      simp only [step] at hs
      split at hs
      · exact runJob_move ‹_› hs
      · cases hs
  | RunWorker future =>
      simp only [step] at hs
      split at hs
      · rename_i session hsession
        split at hs
        · obtain ⟨hcall, rfl, rfl⟩ := call_connect hs
          exact .WorkerRun future session hsession ‹_› hcall
        · cases hs
      · cases hs
  | Drive future branch =>
      simp only [step] at hs
      split at hs
      · exact drive_move ‹_› hs
      · cases hs
  | Core actor => exact core_move (.inl rfl) hs
  | NativeReturn actor result => exact core_move (.inr ⟨result, rfl⟩) hs
  | Send future command =>
      simp only [step] at hs
      split at hs
      · split at hs <;> cases hs
        rename_i hsend
        exact .SessionMoved future ‹_› (.Sent command hsend.1 hsend.2.1 hsend.2.2.1 hsend.2.2.2)
      · cases hs
  | CloneHandle future =>
      simp only [step] at hs
      split at hs
      · split at hs <;> cases hs
        rename_i hlive
        exact .SessionMoved future ‹_› (.HandleCloned hlive.1 hlive.2)
      · cases hs
  | DropHandle future =>
      simp only [step] at hs
      split at hs
      · split at hs <;> cases hs
        exact .SessionMoved future ‹_› (.HandleDropped ‹_›)
      · cases hs
  | CancelToken future =>
      simp only [step] at hs
      split at hs
      · split at hs <;> cases hs
        exact .SessionMoved future ‹_› (.TokenCancelled ‹_›)
      · cases hs
  | Cancel future thread =>
      simp only [step] at hs
      split at hs
      · split at hs
        · rename_i hlive
          exact cancel_move ‹_› (.Cancel future thread hlive.1) hs
        · cases hs
      · cases hs
  | PollSession future =>
      simp only [step] at hs
      split at hs
      · split at hs <;> cases hs
        exact .SessionMoved future ‹_› (.Resolved _ ‹_› ‹_›)
      · cases hs
  | DropSession future thread =>
      simp only [step] at hs
      split at hs
      · rename_i session hsession
        split at hs
        · rename_i hlive
          exact cancel_move hsession (.Drop future thread hlive) hs
        · cases hs
          exact .SessionMoved future hsession (.Released ‹_›)
        · cases hs
      · cases hs

end Moves

end OpenvpnConnect.Tokio
