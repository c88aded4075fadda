import Mathlib.Algebra.Group.Nat.Defs
import OpenvpnConnect.Error
import OpenvpnConnect.Transition.Mutex
import OpenvpnConnect.Transition.Run

namespace OpenvpnConnect.External

open Transition (Mutex Discipline)

-- RustExternalTransportClient and RustExternalTunClient, with the handle state
-- that each shares with the handles of the application.
inductive Kind
  | Transport
  | Tun
deriving DecidableEq, Repr

-- ExternalTransportState has a std::mutex, ExternalTunState a recursive one.
def Kind.discipline : Kind → Discipline
  | .Transport => .Plain
  | .Tun => .Recursive

-- A BufferAllocated that has been given its headroom and written to.
structure Packet where
  capacity : Nat
  headroom : Nat
  data : List UInt8
deriving DecidableEq, Repr

-- The members of TransportClientParent and TunClientParent that are called
-- through a handle, with their arguments.
inductive Method
  | TransportRecv (packet : Packet)
  | TransportNeedsSend
  | TransportError (errorCode : Int32) (text : String)
  | ProxyError (errorCode : Int32) (text : String)
  | TransportPreResolve
  | TransportWaitProxy
  | TransportWait
  | TransportConnecting
  | TransportIsOpenvpnProtocol
  | IsKeepaliveEnabled
  | DisableKeepalive
  | TunRecv (packet : Packet)
  | TunError (errorCode : Int32) (text : String)
  | TunPreTunConfig
  | TunPreRouteConfig
  | TunConnected
deriving DecidableEq

-- What a handle function comes down to: a refusal before anything is locked,
-- post_external_transport or post_external_tun, or query_external_transport.
inductive Operation
  | Refuse
  | Post (method : Method)
  | Query (method : Method)
deriving DecidableEq

inductive TransportCall
  | Receive (packet : List UInt8)
  | NeedsSend
  | ErrorWithCode (errorCode : Int32) (message : String)
  | ProxyErrorWithCode (errorCode : Int32) (message : String)
  | PreResolve
  | WaitProxy
  | Wait
  | Connecting
  | IsOpenvpnProtocol
  | IsKeepaliveEnabled
  | DisableKeepalive
deriving DecidableEq

inductive TunCall
  | Receive (packet : List UInt8)
  | ErrorWithCode (errorCode : Int32) (message : String)
  | PreTunConfig
  | PreRouteConfig
  | Connected
deriving DecidableEq

def TransportCall.operation : TransportCall → Operation
  | .Receive packet => .Post (.TransportRecv ⟨packet.length, 0, packet⟩)
  | .NeedsSend => .Post .TransportNeedsSend
  | .ErrorWithCode errorCode message => .Post (.TransportError errorCode message)
  | .ProxyErrorWithCode errorCode message => .Post (.ProxyError errorCode message)
  | .PreResolve => .Post .TransportPreResolve
  | .WaitProxy => .Post .TransportWaitProxy
  | .Wait => .Post .TransportWait
  | .Connecting => .Post .TransportConnecting
  | .IsOpenvpnProtocol => .Query .TransportIsOpenvpnProtocol
  | .IsKeepaliveEnabled => .Query .IsKeepaliveEnabled
  | .DisableKeepalive => .Query .DisableKeepalive

-- std::numeric_limits<size_t>::max()
def sizeMax : Nat := 2 ^ 64 - 1

def margin : Nat := 1024

def TunCall.operation : TunCall → Operation
  | .Receive packet =>
      if packet.length > sizeMax - margin * 2 then .Refuse
      else .Post (.TunRecv ⟨packet.length + margin * 2, margin, packet⟩)
  | .ErrorWithCode errorCode message => .Post (.TunError errorCode message)
  | .PreTunConfig => .Post .TunPreTunConfig
  | .PreRouteConfig => .Post .TunPreRouteConfig
  | .Connected => .Post .TunConnected

inductive Call
  | Transport (call : TransportCall)
  | Tun (call : TunCall)
deriving DecidableEq

def Call.kind : Call → Kind
  | .Transport _ => .Transport
  | .Tun _ => .Tun

def Call.operation : Call → Operation
  | .Transport call => call.operation
  | .Tun call => call.operation

-- What a method of the parent gives back, as far as a query passes it on.
structure Reply where
  flag : Bool
  ping : UInt32
  timeout : UInt32
deriving DecidableEq

inductive Answer
  | Result (result : Except Error Unit)
  | Flag (value : Bool)
  | Keepalive (result : Except Error (UInt32 × UInt32))
deriving DecidableEq

def activeResult (active : Bool) : Except Error Unit :=
  if active then .ok () else .error .SessionClosed

-- What a method of the handle returns, given whether the session was active
-- and what the parent replied to a query.
def TransportCall.answer (active : Bool) (reply : Reply) : TransportCall → Answer
  | .IsOpenvpnProtocol | .IsKeepaliveEnabled => .Flag (active && reply.flag)
  | .DisableKeepalive =>
      .Keepalive ((activeResult active).map fun _ => (reply.ping, reply.timeout))
  | _ => .Result (activeResult active)

def Call.answer (active : Bool) (reply : Reply) : Call → Answer
  | .Transport call => call.answer active reply
  | .Tun _ => .Result (activeResult active)

def Reply.none : Reply where
  flag := false
  ping := 0
  timeout := 0

-- The I/O thread runs the io_context and with it Core.
inductive Thread (η : Type)
  | Io
  | App (thread : η)
deriving DecidableEq, Repr

-- Names a call on a handle for the observer: its thread and its number.
structure Ticket (η : Type) where
  thread : Thread η
  number : Nat
deriving DecidableEq, Repr

-- The callbacks that a client makes, of which only start and stop are told apart.
inductive Callback
  | Start
  | Stop
  | Other
deriving DecidableEq, Repr

-- What a thread does between locking and unlocking the mutex of a client: the
-- two helpers, a posted closure, transport_reparent, the destructor.
inductive Section (η ρ : Type)
  | Post (id : Ticket η) (call : Call) (method : Method)
  | Query (id : Ticket η) (call : Call) (method : Method)
  | Fetch (id : Ticket η) (method : Method)
  | Reparent (parent : ρ)
  | Detach
deriving DecidableEq

-- A thread has a stack of these. Waiting is before the lock of a section, a
-- Dispatching frame is the outer lock around a closure that runs inline, and a
-- query keeps its lock while the parent's method runs.
inductive Frame (κ η ρ : Type)
  | Waiting (client : κ) (todo : Section η ρ)
  | Inside (client : κ) (todo : Section η ρ)
  | Fetched (client : κ) (id : Ticket η) (method : Method) (parent : Option ρ)
  | Parent (client : κ) (parent : ρ) (id : Ticket η) (method : Method)
  | Queried (client : κ) (parent : ρ) (id : Ticket η) (call : Call) (method : Method)
  | Dispatching (client : κ) (id : Ticket η) (call : Call)
  | Callback (client : κ) (callback : Callback)
  | Joining (reader : η)
deriving DecidableEq

inductive Event (κ η ρ : Type)
  | Constructed (client : κ) (parent : ρ)
  | Reparented (client : κ) (parent : ρ)
  | Destroyed (client : κ)
  | Began (thread : Thread η) (client : κ) (callback : Callback)
  | Ended (thread : Thread η) (client : κ) (callback : Callback)
  | Invoked (thread : Thread η) (client : κ) (id : Ticket η) (call : Call)
  | Accepted (thread : Thread η) (client : κ) (id : Ticket η) (method : Method)
  | Answered (thread : Thread η) (client : κ) (id : Ticket η) (call : Call) (answer : Answer)
  | Skipped (client : κ) (id : Ticket η) (method : Method)
  | Entered (thread : Thread η) (client : κ) (parent : ρ) (id : Ticket η) (method : Method)
  | Left (thread : Thread η) (client : κ) (parent : ρ) (id : Ticket η) (method : Method)
deriving DecidableEq

-- A closure on the queue of the io_context.
structure Closure (κ η : Type) where
  client : κ
  id : Ticket η
  method : Method
deriving DecidableEq

-- `io` and `parent` are the pointers of the handle state, `handles` counts the
-- handles that the application owns. The start callback gives it the first one.
structure Client (η ρ : Type) where
  built : Bool
  alive : Bool
  handles : Nat
  io : Bool
  parent : Option ρ
  mutex : Mutex (Thread η)

-- `calls` numbers the calls on handles.
structure State (κ η ρ : Type) where
  client : κ → Client η ρ
  queue : List (Closure κ η)
  calls : Nat
  stack : Thread η → List (Frame κ η ρ)
  finished : η → Bool

inductive Label (κ η ρ : Type)
  | Construct (client : κ) (parent : ρ)
  | Reparent (client : κ) (parent : ρ)
  | Destroy (client : κ)
  | Callback (thread : Thread η) (client : κ) (callback : Callback)
  | Execute
  | Invoke (thread : Thread η) (client : κ) (call : Call)
  | Clone (thread : Thread η) (client : κ)
  | Drop (thread : Thread η) (client : κ)
  | Join (thread : Thread η) (reader : η)
  | Finish (reader : η)
  | Lock (thread : Thread η)
  | Run (thread : Thread η)
  | Return (thread : Thread η) (reply : Reply)
deriving DecidableEq

section Model

variable {κ η ρ : Type}

def Client.unbuilt : Client η ρ where
  built := false
  alive := false
  handles := 0
  io := false
  parent := none
  mutex := .Free

def State.new : State κ η ρ where
  client := fun _ => .unbuilt
  queue := []
  calls := 0
  stack := fun _ => []
  finished := fun _ => false

-- Core's code runs on the I/O thread between callbacks, and wherever a
-- method of a parent runs.
def State.inCore (state : State κ η ρ) (thread : Thread η) : Bool :=
  match thread, state.stack thread with
  | .Io, [] => true
  | _, .Parent .. :: _ | _, .Queried .. :: _ => true
  | _, _ => false

-- The application's code runs on its own threads and in callbacks.
def State.inApp (state : State κ η ρ) (thread : Thread η) : Bool :=
  match thread, state.stack thread with
  | .App reader, [] => !state.finished reader
  | _, .Callback .. :: _ => true
  | _, _ => false

def State.enqueue (state : State κ η ρ) (closure : Closure κ η) : State κ η ρ :=
  { state with queue := state.queue ++ [closure] }

variable [DecidableEq κ] [DecidableEq η]

def State.goto (state : State κ η ρ) (thread : Thread η) (frames : List (Frame κ η ρ)) : State κ η ρ :=
  { state with stack := fun other => if other = thread then frames else state.stack other }

def State.push (state : State κ η ρ) (thread : Thread η) (frame : Frame κ η ρ) : State κ η ρ :=
  state.goto thread (frame :: state.stack thread)

def State.setClient (state : State κ η ρ) (client : κ) (value : Client η ρ) : State κ η ρ :=
  { state with client := fun other => if other = client then value else state.client other }

def State.lock (state : State κ η ρ) (kind : κ → Kind) (thread : Thread η) (client : κ) :
    Option (State κ η ρ) :=
  ((state.client client).mutex.lock (kind client).discipline thread).map fun mutex =>
    state.setClient client { state.client client with mutex := mutex }

def State.unlock (state : State κ η ρ) (thread : Thread η) (client : κ) : Option (State κ η ρ) :=
  ((state.client client).mutex.unlock thread).map fun mutex =>
    state.setClient client { state.client client with mutex := mutex }

-- The io_context and the parent are both there.
def Client.active (client : Client η ρ) : Bool := client.io && client.parent.isSome

-- The rest of a handle call once its lock is taken, to the unlock and the answer.
def answer (state : State κ η ρ) (thread : Thread η) (client : κ) (rest : List (Frame κ η ρ))
    (id : Ticket η) (call : Call) (active : Bool) (reply : Reply) (seen : List (Event κ η ρ)) :
    Option (State κ η ρ × List (Event κ η ρ)) :=
  (state.unlock thread client).map fun after =>
    (after.goto thread rest, seen ++ [.Answered thread client id call (call.answer active reply)])

-- openvpn_io::post always queues. openvpn_io::dispatch queues too, except on
-- the I/O thread, where it runs the closure before it returns.
def post (kind : Kind) (state : State κ η ρ) (thread : Thread η) (client : κ)
    (rest : List (Frame κ η ρ)) (id : Ticket η) (call : Call) (method : Method) :
    Option (State κ η ρ × List (Event κ η ρ)) :=
  if (state.client client).active then
    if kind = .Tun ∧ thread = .Io then
      some (state.goto thread
          (.Waiting client (.Fetch id method) :: .Dispatching client id call :: rest),
        [.Accepted thread client id method])
    else
      answer (state.enqueue ⟨client, id, method⟩) thread client rest id call true .none
        [.Accepted thread client id method]
  else answer state thread client rest id call false .none []

def query (state : State κ η ρ) (thread : Thread η) (client : κ) (rest : List (Frame κ η ρ))
    (id : Ticket η) (call : Call) (method : Method) : Option (State κ η ρ × List (Event κ η ρ)) :=
  match (state.client client).parent with
  | none => answer state thread client rest id call false .none []
  | some parent => some (state.goto thread (.Queried client parent id call method :: rest),
      [.Entered thread client parent id method])

def runSection (kind : κ → Kind) (state : State κ η ρ) (thread : Thread η) (client : κ)
    (rest : List (Frame κ η ρ)) : Section η ρ → Option (State κ η ρ × List (Event κ η ρ))
  | .Post id call method => post (kind client) state thread client rest id call method
  | .Query id call method => query state thread client rest id call method
  | .Fetch id method => (state.unlock thread client).map fun after =>
      (after.goto thread (.Fetched client id method (state.client client).parent :: rest), [])
  | .Reparent parent =>
      ((state.setClient client { state.client client with parent := some parent }).unlock thread
        client).map fun after => (after.goto thread rest, [.Reparented client parent])
  | .Detach =>
      ((state.setClient client { state.client client with parent := none, io := false }).unlock thread
        client).map fun after => (after.goto thread rest, [.Destroyed client])

-- A step of the code that a thread is in, where it is not the application's,
-- Core's or a lock.
def runFrame (kind : κ → Kind) (state : State κ η ρ) (thread : Thread η) :
    Option (State κ η ρ × List (Event κ η ρ)) :=
  match state.stack thread with
  | .Inside client todo :: rest => runSection kind state thread client rest todo
  | .Fetched client id method none :: rest =>
      some (state.goto thread rest, [.Skipped client id method])
  | .Fetched client id method (some parent) :: rest =>
      some (state.goto thread (.Parent client parent id method :: rest),
        [.Entered thread client parent id method])
  | _ => none

-- A thread waits at the lock for as long as the mutex is not to be had.
def lockFrame (kind : κ → Kind) (state : State κ η ρ) (thread : Thread η) :
    Option (State κ η ρ × List (Event κ η ρ)) :=
  match state.stack thread with
  | .Waiting client todo :: rest =>
      (state.lock kind thread client).map fun after =>
        (after.goto thread (.Inside client todo :: rest), [])
  | _ => none

-- Core's methods, callbacks, joins and dispatch come back.
def returnFrame (state : State κ η ρ) (thread : Thread η) (reply : Reply) :
    Option (State κ η ρ × List (Event κ η ρ)) :=
  match state.stack thread with
  | .Parent client parent id method :: rest =>
      some (state.goto thread rest, [.Left thread client parent id method])
  | .Queried client parent id call method :: rest =>
      answer state thread client rest id call true reply [.Left thread client parent id method]
  | .Dispatching client id call :: rest => answer state thread client rest id call true .none []
  | .Callback client callback :: rest =>
      some (state.goto thread rest, [.Ended thread client callback])
  | .Joining reader :: rest =>
      if state.finished reader then some (state.goto thread rest, []) else none
  | _ => none

-- The call gets its number and goes to the lock, if it is not refused at once.
def invoke (state : State κ η ρ) (thread : Thread η) (client : κ) (call : Call) :
    State κ η ρ × List (Event κ η ρ) :=
  let id := ⟨thread, state.calls⟩
  let counted := { state with calls := state.calls + 1 }
  match call.operation with
  | .Refuse => (counted, [.Invoked thread client id call,
      .Answered thread client id call (call.answer false .none)])
  | .Post method => (counted.push thread (.Waiting client (.Post id call method)),
      [.Invoked thread client id call])
  | .Query method => (counted.push thread (.Waiting client (.Query id call method)),
      [.Invoked thread client id call])

def step (kind : κ → Kind) (state : State κ η ρ) :
    Label κ η ρ → Option (State κ η ρ × List (Event κ η ρ))
  | .Construct client parent =>
      if state.inCore .Io ∧ (state.client client).built = false then
        some (state.setClient client
            { state.client client with
              built := true, alive := true, io := true, parent := some parent },
          [.Constructed client parent])
      else none
  | .Reparent client parent =>
      if state.inCore .Io ∧ (state.client client).alive ∧ kind client = .Transport then
        some (state.push .Io (.Waiting client (.Reparent parent)), [])
      else none
  | .Destroy client =>
      if state.inCore .Io ∧ (state.client client).alive then
        some ((state.setClient client { state.client client with alive := false }).push .Io
          (.Waiting client .Detach), [])
      else none
  | .Callback thread client callback =>
      if state.inCore thread ∧ (state.client client).alive then
        some ((state.setClient client
            { state.client client with
              handles := (state.client client).handles + if callback = .Start then 1 else 0 }).push
            thread (.Callback client callback),
          [.Began thread client callback])
      else none
  | .Execute =>
      match state.stack .Io, state.queue with
      | [], closure :: rest => some ({ state with queue := rest }.push .Io
          (.Waiting closure.client (.Fetch closure.id closure.method)), [])
      | _, _ => none
  | .Invoke thread client call =>
      if state.inApp thread ∧ 0 < (state.client client).handles ∧ call.kind = kind client then
        some (invoke state thread client call)
      else none
  | .Clone thread client =>
      if state.inApp thread ∧ 0 < (state.client client).handles then
        some (state.setClient client
          { state.client client with handles := (state.client client).handles + 1 }, [])
      else none
  | .Drop thread client =>
      if state.inApp thread ∧ 0 < (state.client client).handles then
        some (state.setClient client
          { state.client client with handles := (state.client client).handles - 1 }, [])
      else none
  | .Join thread reader =>
      match state.stack thread with
      | .Callback _ _ :: _ => some (state.push thread (.Joining reader), [])
      | _ => none
  | .Finish reader =>
      if state.stack (.App reader) = [] ∧ state.finished reader = false then
        some ({ state with
          finished := fun other => if other = reader then true else state.finished other }, [])
      else none
  | .Lock thread => lockFrame kind state thread
  | .Run thread => runFrame kind state thread
  | .Return thread reply => returnFrame state thread reply

def machine (kind : κ → Kind) :
    Transition.Machine (State κ η ρ) (Label κ η ρ) (Event κ η ρ) where
  step := step kind

end Model

end OpenvpnConnect.External
