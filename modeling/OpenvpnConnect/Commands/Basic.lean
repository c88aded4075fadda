import OpenvpnConnect.Tokio.Basic

namespace OpenvpnConnect.Commands

open Transition
open OpenvpnConnect.Tokio (Command Branch)

-- What goes through the oneshot of a command: the unit of the controls, the
-- Result<Status> of the two checks, or what a query asks for.
inductive Reply (ι : Type)
  | Unit
  | Status (result : Except Error ι)
  | Value (value : ι)
deriving DecidableEq, Repr

-- The type of a command's oneshot, which Core's operation gives back to run_command.
def Reply.answers {ι : Type} (reply : Reply ι) : Command → Bool
  | .Stop | .Pause _ | .Resume | .Reconnect _ | .PostControl _ | .SendAppControl .. =>
      match reply with | .Unit => true | _ => false
  | .StartCertCheck .. | .StartEpkiCertCheck .. =>
      match reply with | .Status _ => true | _ => false
  | .ConnectionInfo | .SessionToken | .Statistics | .InterfaceStats | .TransportStats =>
      match reply with | .Value _ => true | _ => false

-- The two checks run as a blocking job, which the driver awaits.
def blocking : Command → Bool
  | .StartCertCheck .. | .StartEpkiCertCheck .. => true
  | _ => false

-- The future of SessionHandle::query, by the await that it is at: send waits
-- for a permit of the channel, has got one, or is done and the reply is awaited.
inductive Phase (ι : Type)
  | Unpolled
  | Reserving
  | Reserved
  | Waiting
  | Ready (outcome : Except Error (Reply ι))
  | Dropped

-- A future borrows its handle until it is over.
structure Future (ι : Type) where
  handle : Nat
  command : Command
  phase : Phase ι

def Phase.over {ι : Type} : Phase ι → Bool
  | .Unpolled | .Ready _ | .Dropped => true
  | _ => false

-- A oneshot channel; it is closed when its sender goes without a value.
inductive Slot (ι : Type)
  | Open
  | Sent (reply : Reply ι)
  | Closed

-- A command in the channel with the oneshot sender of its future.
structure Entry where
  id : Nat
  command : Command
deriving DecidableEq, Repr

-- Where the driver task is. A command is taken, executes on Core, on the
-- driver's thread or as a blocking job, and is replied to. After the loop the
-- guard stops Core, the result is sent and the receiver goes: the channel is
-- closed and what it still holds is dropped.
inductive Driver (ι : Type)
  | Select
  | RunCommand (entry : Entry)
  | Executing (entry : Entry)
  | Replying (entry : Entry) (reply : Reply ι)
  | AwaitJoin
  | Guard
  | Complete
  | Closing
  | Draining
  | Exited

-- `handles` are the live clones of the SessionHandle, `clones` and `calls`
-- number the clones and the futures.
structure State (ι : Type) where
  handles : List Nat
  clones : Nat
  calls : Nat
  future : Nat → Future ι
  slot : Nat → Slot ι
  commands : List Entry
  permits : Nat
  receiving : Bool
  commandsOpen : Bool
  cancelled : Bool
  joined : Bool
  driver : Driver ι

inductive Event (ι : Type)
  | Called (id : Nat) (command : Command)
  | Enqueued (entry : Entry)
  | Began (entry : Entry) (blocking : Bool)
  | Ended (entry : Entry) (reply : Reply ι)
  | Discarded (entry : Entry)
  | Returned (id : Nat) (outcome : Except Error (Reply ι))
  | Abandoned (id : Nat)
  | Stopped
deriving DecidableEq

inductive Label (ι : Type)
  | Clone (handle : Nat)
  | DropHandle (handle : Nat)
  | Call (handle : Nat) (command : Command)
  | Poll (id : Nat)
  | DropFuture (id : Nat)
  | Cancel
  | Join
  | Begin
  | Finish (reply : Reply ι)
  | Drive (branch : Branch)

section Model

variable {ι : Type}

def Future.unpolled : Future ι where
  handle := 0
  command := .Stop
  phase := .Unpolled

-- What connect hands out with a channel of the client's command_capacity.
def State.new (capacity : Nat) : State ι where
  handles := [0]
  clones := 1
  calls := 0
  future := fun _ => .unpolled
  slot := fun _ => .Open
  commands := []
  permits := capacity
  receiving := true
  commandsOpen := true
  cancelled := false
  joined := false
  driver := .Select

def State.setFuture (state : State ι) (id : Nat) (future : Future ι) : State ι :=
  { state with future := fun other => if other = id then future else state.future other }

def State.goto (state : State ι) (id : Nat) (phase : Phase ι) : State ι :=
  state.setFuture id { state.future id with phase := phase }

def State.setSlot (state : State ι) (id : Nat) (slot : Slot ι) : State ι :=
  { state with slot := fun other => if other = id then slot else state.slot other }

-- Some future still borrows the handle.
def State.borrowed (state : State ι) (handle : Nat) : Prop :=
  ∃ id, id < state.calls ∧ (state.future id).handle = handle ∧ (state.future id).phase.over = false

instance (state : State ι) (handle : Nat) : Decidable (state.borrowed handle) :=
  decidable_of_iff (∃ id ∈ List.range state.calls, (state.future id).handle = handle ∧
    (state.future id).phase.over = false) (by simp [State.borrowed, List.mem_range])

def ready (state : State ι) (id : Nat) (outcome : Except Error (Reply ι)) :
    State ι × List (Event ι) :=
  (state.goto id (.Ready outcome), [.Returned id outcome])

-- The channel is closed for a sender that still waits; one that has its permit
-- sends, be the receiver there or not.
def poll (state : State ι) (id : Nat) : Option (State ι × List (Event ι)) :=
  match (state.future id).phase with
  | .Reserving =>
      if state.receiving then
        if 0 < state.permits then
          some ({ state with permits := state.permits - 1 }.goto id .Reserved, [])
        else none
      else some (ready (state.setSlot id .Closed) id (.error .SessionClosed))
  | .Reserved =>
      let entry := ⟨id, (state.future id).command⟩
      some ({ state with commands := state.commands ++ [entry] }.goto id .Waiting, [.Enqueued entry])
  | .Waiting =>
      match state.slot id with
      | .Open => none
      | .Sent reply => some (ready state id (.ok reply))
      | .Closed => some (ready state id (.error .SessionClosed))
  | _ => none

-- A command that has not been sent goes with its future, a permit goes back.
def dropFuture (state : State ι) (id : Nat) : Option (State ι × List (Event ι)) :=
  match (state.future id).phase with
  | .Reserving => some ((state.setSlot id .Closed).goto id .Dropped, [.Abandoned id])
  | .Reserved => some
      ({ state.setSlot id .Closed with permits := state.permits + 1 }.goto id .Dropped,
        [.Abandoned id])
  | .Waiting => some (state.goto id .Dropped, [.Abandoned id])
  | _ => none

def receive (state : State ι) : Option (State ι × List (Event ι)) :=
  match state.commands with
  | entry :: rest => some
      ({ state with commands := rest, permits := state.permits + 1, driver := .RunCommand entry }, [])
  | [] =>
      if state.handles = [] then some ({ state with commandsOpen := false }, []) else none

def drive (state : State ι) (branch : Branch) : Option (State ι × List (Event ι)) :=
  match state.driver, branch with
  | .Select, .Joined => if state.joined then some ({ state with driver := .Guard }, []) else none
  | .Select, .Cancelled =>
      if state.cancelled then some ({ state with driver := .AwaitJoin }, [.Stopped]) else none
  | .Select, .Command => if state.commandsOpen then receive state else none
  | .Replying entry reply, _ =>
      some ({ state.setSlot entry.id (.Sent reply) with driver := .Select }, [])
  | .AwaitJoin, _ => if state.joined then some ({ state with driver := .Guard }, []) else none
  | .Guard, _ => some ({ state with driver := .Complete }, [.Stopped])
  | .Complete, _ => some ({ state with driver := .Closing }, [])
  | .Closing, _ => some ({ state with receiving := false, driver := .Draining }, [])
  | .Draining, _ =>
      match state.commands with
      | entry :: rest => some
          ({ state.setSlot entry.id .Closed with commands := rest }, [.Discarded entry])
      | [] => some ({ state with driver := .Exited }, [])
  | _, _ => none

def step (state : State ι) : Label ι → Option (State ι × List (Event ι))
  | .Clone handle =>
      if handle ∈ state.handles then
        some ({ state with handles := state.clones :: state.handles, clones := state.clones + 1 }, [])
      else none
  | .DropHandle handle =>
      if handle ∈ state.handles ∧ ¬state.borrowed handle then
        some ({ state with handles := state.handles.erase handle }, [])
      else none
  | .Call handle command =>
      if handle ∈ state.handles then
        some ({ state with calls := state.calls + 1 }.setFuture state.calls ⟨handle, command, .Reserving⟩,
          [.Called state.calls command])
      else none
  | .Poll id => poll state id
  | .DropFuture id => dropFuture state id
  | .Cancel => some ({ state with cancelled := true }, [])
  | .Join => some ({ state with joined := true }, [])
  | .Begin =>
      match state.driver with
      | .RunCommand entry =>
          some ({ state with driver := .Executing entry }, [.Began entry (blocking entry.command)])
      | _ => none
  | .Finish reply =>
      match state.driver with
      | .Executing entry =>
          if reply.answers entry.command then
            some ({ state with driver := .Replying entry reply }, [.Ended entry reply])
          else none
      | _ => none
  | .Drive branch => drive state branch

def machine : Machine (State ι) (Label ι) (Event ι) where
  step := step

end Model

end OpenvpnConnect.Commands
