import OpenvpnConnect.Client.Basic

namespace OpenvpnConnect.Tokio

open Transition
open OpenvpnConnect.Client (Outcome Lifecycle)

-- Who calls the synchronous client: the blocking job of a future, the worker
-- and the driver of the session that a connect future starts, and the threads
-- that cancel a session through its handles.
inductive Actor (φ η : Type)
  | Job (future : φ)
  | Worker (future : φ)
  | Driver (future : φ)
  | Holder (future : φ) (thread : η)
deriving DecidableEq, Repr

-- The operations that need an idle client and run as a blocking job.
inductive Mutation
  | Evaluate (config : Config)
  | ProvideCredentials
  | CallbackSelfTest
deriving DecidableEq, Repr

inductive Operation
  | Mutate (mutation : Mutation)
  | Connect
deriving DecidableEq, Repr

-- The future of a call, by the await or the step that it is at. It can be
-- dropped at its awaits and before it is first polled.
inductive Future
  | Unpolled
  | AwaitSetup (operation : Operation)
  | EnsureIdle (mutation : Mutation)
  | AwaitJob
  | EnsureConnectable
  | CompareExchange
  | AwaitStarted
  | Ready (outcome : Outcome)
  | Dropped
deriving DecidableEq, Repr

-- A closure given to spawn_blocking; it owns the setup guard until it is done.
inductive Job
  | Unspawned
  | Queued (mutation : Mutation)
  | Running
  | Done (outcome : Outcome)
deriving DecidableEq, Repr

inductive Worker
  | Queued
  | Running
  | Done (outcome : Outcome)
deriving DecidableEq, Repr

inductive Command
  | Stop
  | Pause (reason : String)
  | Resume
  | Reconnect (seconds : Int)
  | PostControl (message : String)
  | SendAppControl (protocol message : String)
  | StartCertCheck (clientCertificate clientKey : String) (ca : Option String)
  | StartEpkiCertCheck (aliasName : String) (ca : Option String)
  | ConnectionInfo
  | SessionToken
  | Statistics
  | InterfaceStats
  | TransportStats
deriving DecidableEq, Repr

-- Where the driver task is. StopCommand, CancelStop and GuardStop are inside
-- core.stop(), for a command, for the token and for the guard.
inductive Driver
  | Select
  | RunCommand (command : Command)
  | StopCommand
  | CancelStop
  | AwaitJoin
  | GuardStop (result : Outcome)
  | GuardClear (result : Outcome)
  | Complete (result : Outcome)
  | Exited
deriving DecidableEq, Repr

inductive Started
  | Pending
  | Sent
  | Closed
deriving DecidableEq, Repr

inductive Completion
  | Pending
  | Sent (result : Outcome)
  | Closed
deriving DecidableEq, Repr

-- The Session value: not returned yet, owned by the application, resolved,
-- inside its drop on a thread, or gone.
inductive Object (η : Type)
  | Unborn
  | Live
  | Completed
  | Dropping (thread : η)
  | Dropped
deriving DecidableEq, Repr

-- What one connect future and its driver share. `senders` counts the live
-- SessionHandles, the one in the future or in the Session among them.
structure Session (η : Type) where
  commands : List Command
  commandsOpen : Bool
  receiving : Bool
  senders : Nat
  cancelled : Bool
  started : Started
  worker : Worker
  driver : Driver
  completion : Completion
  object : Object η
deriving DecidableEq, Repr

structure State (φ η : Type) where
  core : Client.State (Actor φ η)
  setup : Option φ
  sessionActive : Bool
  future : φ → Future
  job : φ → Job
  session : φ → Option (Session η)

inductive Event (φ η : Type)
  | Core (event : Client.Event (Actor φ η))
  | Begun (future : φ) (operation : Operation)
  | Ready (future : φ) (outcome : Outcome)
  | Abandoned (future : φ)
  | Exchanged (future : φ)
  | Connected (future : φ)
  | Cancelled (future : φ)
  | Executing (future : φ) (command : Command)
  | Cleared (future : φ)
  | Resolved (future : φ) (result : Outcome)
deriving DecidableEq, Repr

-- The branch that select! takes among those that are ready.
inductive Branch
  | Joined
  | Cancelled
  | Command
deriving DecidableEq, Repr

inductive Label (φ η : Type)
  | Begin (future : φ) (operation : Operation)
  | Lock (future : φ)
  | Poll (future : φ)
  | Drop (future : φ)
  | RunJob (future : φ)
  | RunWorker (future : φ)
  | Drive (future : φ) (branch : Branch)
  | Core (actor : Actor φ η)
  | NativeReturn (actor : Actor φ η) (result : Except Error Unit)
  | Send (future : φ) (command : Command)
  | CloneHandle (future : φ)
  | DropHandle (future : φ)
  | CancelToken (future : φ)
  | Cancel (future : φ) (thread : η)
  | PollSession (future : φ)
  | DropSession (future : φ) (thread : η)

def Outcome.of : Except Error Unit → Outcome
  | .ok () => .Ok
  | .error error => .Err error

def Mutation.label {φ η : Type} (mutation : Mutation) (actor : Actor φ η) :
    Client.Label (Actor φ η) :=
  match mutation with
  | .Evaluate config => .Evaluate actor config
  | .ProvideCredentials => .ProvideCredentials actor
  | .CallbackSelfTest => .CallbackSelfTest actor

-- What spawn_driver starts a session with.
def spawnDriver {η : Type} : Session η where
  commands := []
  commandsOpen := true
  receiving := true
  senders := 1
  cancelled := false
  started := .Pending
  worker := .Queued
  driver := .Select
  completion := .Pending
  object := .Unborn

-- The guard lives until the driver has cleared the flag.
def Driver.active : Driver → Bool
  | .Complete _ | .Exited => false
  | _ => true

def Object.owner {η : Type} : Object η → Bool
  | .Live | .Completed | .Dropping _ => true
  | .Unborn | .Dropped => false

-- The session has been handed out.
def Object.born {η : Type} : Object η → Bool
  | .Unborn => false
  | _ => true

-- A handle outside of the Session value.
def Session.spare {η : Type} (session : Session η) : Bool :=
  session.object.born && decide ((if session.object.owner then 1 else 0) < session.senders)

-- What follows in a worker's closure, in a driver and in a drop when a call
-- on the synchronous client comes back.
def Session.workerReturned {η : Type} (session : Session η) (outcome : Outcome) : Session η :=
  { session with
    worker := .Done outcome
    started := if session.started = .Pending then .Closed else session.started }

def Session.stopReturned {η : Type} (session : Session η) : Session η :=
  match session.driver with
  | .StopCommand => { session with driver := .Select }
  | .CancelStop => { session with driver := .AwaitJoin }
  | .GuardStop result => { session with driver := .GuardClear result }
  | _ => session

def Session.holderReturned {η : Type} [DecidableEq η] (session : Session η) (thread : η) : Session η :=
  if session.object = .Dropping thread then
    { session with
      object := .Dropped
      senders := session.senders - 1
      completion := .Closed }
  else session

section Model

variable {φ η : Type} [DecidableEq φ] [DecidableEq η]

def State.new : State φ η where
  core := Client.State.new
  setup := none
  sessionActive := false
  future := fun _ => .Unpolled
  job := fun _ => .Unspawned
  session := fun _ => none

def State.goto (state : State φ η) (future : φ) (next : Future) : State φ η :=
  { state with future := fun other => if other = future then next else state.future other }

def State.setJob (state : State φ η) (future : φ) (job : Job) : State φ η :=
  { state with job := fun other => if other = future then job else state.job other }

def State.setSession (state : State φ η) (future : φ) (session : Session η) : State φ η :=
  { state with session := fun other => if other = future then some session else state.session other }

def State.update (state : State φ η) (future : φ) (change : Session η → Session η) : State φ η :=
  { state with
    session := fun other =>
      if other = future then (state.session other).map change else state.session other }

-- A call on the synchronous client tells its caller that it started or
-- returned; a job is done with the setup guard when its call returns.
def absorb (state : State φ η) : Client.Event (Actor φ η) → State φ η
  | .Started (.Worker future) => state.update future fun session => { session with started := .Sent }
  | .Returned (.Worker future) _ outcome => state.update future (·.workerReturned outcome)
  | .Returned (.Job future) _ outcome => { state with setup := none }.setJob future (.Done outcome)
  | .Returned (.Driver future) _ _ => state.update future (·.stopReturned)
  | .Returned (.Holder future thread) _ _ => state.update future (·.holderReturned thread)
  | _ => state

def call (capabilities : Capabilities) (state : State φ η) (label : Client.Label (Actor φ η)) :
    Option (State φ η × List (Event φ η)) :=
  match Client.step capabilities state.core label with
  | none => none
  | some (core, seen) => some (seen.foldl absorb { state with core := core }, seen.map .Core)

-- A future resolves; the setup guard goes with it where it still has one.
def ready (state : State φ η) (future : φ) (outcome : Outcome) : State φ η × List (Event φ η) :=
  ({ state with setup := none }.goto future (.Ready outcome), [.Ready future outcome])

def ensureIdle (state : State φ η) (future : φ) (mutation : Mutation) :
    State φ η × List (Event φ η) :=
  if state.sessionActive then
    ready state future
      (.Err (.InvalidState "cannot mutate configuration while the client is connecting"))
  else ((state.goto future .AwaitJob).setJob future (.Queued mutation), [])

def ensureConnectable (state : State φ η) (future : φ) : State φ η × List (Event φ η) :=
  match Client.ensureConnectable state.core with
  | .error error => ready state future (.Err error)
  | .ok () => (state.goto future .CompareExchange, [])

def compareExchange (state : State φ η) (future : φ) : State φ η × List (Event φ η) :=
  if state.sessionActive then
    ready state future (.Err (.InvalidState "the client is already connecting"))
  else
    (({ state with sessionActive := true }.goto future .AwaitStarted).setSession future spawnDriver,
      [.Exchanged future])

-- The end of connect: the session is handed out, or the worker never started.
def awaitStarted (state : State φ η) (future : φ) (session : Session η) :
    Option (State φ η × List (Event φ η)) :=
  match session.started with
  | .Pending => none
  | .Sent =>
      let (next, seen) := ready state future .Ok
      some (next.setSession future { session with object := .Live }, .Connected future :: seen)
  | .Closed =>
      let (next, seen) := ready { state with sessionActive := false } future
        (.Err (.Runtime "OpenVPN session worker exited before starting Core"))
      some (next.setSession future { session with senders := session.senders - 1, completion := .Closed }, seen)

def poll (state : State φ η) (future : φ) : Option (State φ η × List (Event φ η)) :=
  match state.future future with
  | .EnsureIdle mutation => some (ensureIdle state future mutation)
  | .EnsureConnectable =>
      -- waits for the lifecycle mutex
      if state.core.lock = none then some (ensureConnectable state future) else none
  | .CompareExchange => some (compareExchange state future)
  | .AwaitJob =>
      match state.job future with
      | .Done outcome => some (state.goto future (.Ready outcome), [.Ready future outcome])
      | _ => none
  | .AwaitStarted =>
      match state.session future with
      | some session => awaitStarted state future session
      | none => none
  | _ => none

-- A dropped future leaves its job behind, and its session if it has started one.
def drop (state : State φ η) (future : φ) : Option (State φ η × List (Event φ η)) :=
  match state.future future with
  | .Unpolled | .AwaitSetup _ | .AwaitJob => some (state.goto future .Dropped, [])
  | .AwaitStarted =>
      match state.session future with
      | some session => some
          (({ state with setup := none }.goto future .Dropped).setSession future
            { session with senders := session.senders - 1, completion := .Closed }, [.Abandoned future])
      | none => none
  | _ => none

def drive (capabilities : Capabilities) (state : State φ η) (future : φ) (session : Session η)
    (branch : Branch) : Option (State φ η × List (Event φ η)) :=
  match session.driver, branch with
  | .Select, .Joined | .AwaitJoin, .Joined =>
      match session.worker with
      | .Done outcome =>
          call capabilities (state.setSession future { session with driver := .GuardStop outcome })
            (.Stop (.Driver future))
      | _ => none
  | .Select, .Cancelled =>
      if session.cancelled then
        call capabilities (state.setSession future { session with driver := .CancelStop })
          (.Stop (.Driver future))
      else none
  | .Select, .Command =>
      if session.commandsOpen then
        match session.commands with
        | command :: rest => some
            (state.setSession future
              { session with commands := rest, driver := .RunCommand command }, [])
        | [] =>
            if session.senders = 0 then
              some (state.setSession future { session with commandsOpen := false }, [])
            else none
      else none
  | .RunCommand .Stop, _ =>
      match call capabilities (state.setSession future { session with driver := .StopCommand })
          (.Stop (.Driver future)) with
      | none => none
      | some (next, seen) => some (next, .Executing future .Stop :: seen)
  | .RunCommand command, _ =>
      some (state.setSession future { session with driver := .Select }, [.Executing future command])
  | .GuardClear result, _ =>
      some ({ state with sessionActive := false }.setSession future
        { session with driver := .Complete result }, [.Cleared future])
  | .Complete result, _ => some
      (state.setSession future
        { session with
          driver := .Exited
          receiving := false
          completion := if session.completion = .Pending then .Sent result else session.completion }, [])
  | _, _ => none

-- SessionHandle::cancel and the part of Session::drop that calls it.
def cancel (capabilities : Capabilities) (state : State φ η) (future : φ) (session : Session η)
    (thread : η) : Option (State φ η × List (Event φ η)) :=
  match call capabilities (state.setSession future { session with cancelled := true })
      (.Stop (.Holder future thread)) with
  | none => none
  | some (next, seen) => some (next, .Cancelled future :: seen)

def step (capabilities : Capabilities) (capacity : Nat) (state : State φ η) :
    Label φ η → Option (State φ η × List (Event φ η))
  | .Begin future operation =>
      if state.future future = .Unpolled then
        some (state.goto future (.AwaitSetup operation), [.Begun future operation])
      else none
  | .Lock future =>
      if state.setup = none then
        match state.future future with
        | .AwaitSetup .Connect => some ({ state with setup := some future }.goto future .EnsureConnectable, [])
        | .AwaitSetup (.Mutate mutation) =>
            some ({ state with setup := some future }.goto future (.EnsureIdle mutation), [])
        | _ => none
      else none
  | .Poll future => poll state future
  | .Drop future => drop state future
  | .RunJob future =>
      match state.job future with
      | .Queued mutation =>
          call capabilities (state.setJob future .Running) (mutation.label (.Job future))
      | _ => none
  | .RunWorker future =>
      match state.session future with
      | some session =>
          if session.worker = .Queued then
            call capabilities (state.setSession future { session with worker := .Running })
              (.Connect (.Worker future) true)
          else none
      | none => none
  | .Drive future branch =>
      match state.session future with
      | some session => drive capabilities state future session branch
      | none => none
  | .Core actor => call capabilities state (.Step actor)
  | .NativeReturn actor result => call capabilities state (.NativeReturn actor (Outcome.of result))
  | .Send future command =>
      match state.session future with
      | some session =>
          if session.object.born ∧ 0 < session.senders ∧ session.receiving ∧
              session.commands.length < capacity then
            some (state.setSession future { session with commands := session.commands ++ [command] }, [])
          else none
      | none => none
  | .CloneHandle future =>
      match state.session future with
      | some session =>
          if session.object.born ∧ 0 < session.senders then
            some (state.setSession future { session with senders := session.senders + 1 }, [])
          else none
      | none => none
  | .DropHandle future =>
      match state.session future with
      | some session =>
          if session.spare then
            some (state.setSession future { session with senders := session.senders - 1 }, [])
          else none
      | none => none
  | .CancelToken future =>
      match state.session future with
      | some session =>
          if session.object.born then
            some (state.setSession future { session with cancelled := true }, [.Cancelled future])
          else none
      | none => none
  | .Cancel future thread =>
      match state.session future with
      | some session =>
          if session.object.born ∧ 0 < session.senders then
            cancel capabilities state future session thread
          else none
      | none => none
  | .PollSession future =>
      match state.session future with
      | some session =>
          match session.object, session.completion with
          | .Live, .Sent result =>
              some (state.setSession future { session with object := .Completed },
                [.Resolved future result])
          | _, _ => none
      | none => none
  | .DropSession future thread =>
      match state.session future with
      | some session =>
          match session.object with
          | .Live => cancel capabilities state future { session with object := .Dropping thread } thread
          | .Completed => some
              (state.setSession future
                { session with object := .Dropped, senders := session.senders - 1 }, [])
          | _ => none
      | none => none

def machine (capabilities : Capabilities) (capacity : Nat) :
    Machine (State φ η) (Label φ η) (Event φ η) where
  step := step capabilities capacity

end Model

end OpenvpnConnect.Tokio
