import Mathlib.Data.Finset.Basic
import OpenvpnConnect.Error
import OpenvpnConnect.Transition.Run

namespace OpenvpnConnect.Client

inductive Lifecycle
  | New
  | Ready
  | Connecting
  | Finished
deriving DecidableEq, Repr

def Lifecycle.rank : Lifecycle → Nat
  | .New => 0
  | .Ready => 1
  | .Connecting => 2
  | .Finished => 3

-- The calls on a clone of the client that touch its lifecycle or its stop
-- flag, and the self test, which touches neither.
inductive Call
  | Evaluate
  | ProvideCredentials
  | CallbackSelfTest
  | Connect
  | ConnectWithStarted
  | Stop
deriving DecidableEq, Repr

inductive Outcome
  | Ok
  | Err (error : Error)
  | Unwound
deriving DecidableEq, Repr

-- Where Core is with its one session. Foreign-thread access is on, and stop
-- takes effect, exactly while it is Accepting.
inductive CorePhase
  | Unconnected
  | Setup
  | Accepting
  | Returned
deriving DecidableEq, Repr

-- What a thread does next. A thread at a Lock frame waits for the lifecycle
-- mutex; `started` tells connect_with_started from connect. A call made from
-- inside a callback counts as another thread's.
inductive Frame
  | Idle
  | EvaluateLock
  | EvaluateNative
  | CredentialsLock
  | CredentialsNative
  | SelfTestNative
  | PrepareLock (started : Bool)
  | PrepareReset (started : Bool)
  | ConnectNative (started : Bool)
  | ConnectSetup (started : Bool)
  | ConnectEnabled (started : Bool)
  | ConnectRun (started : Bool)
  | CoreReturned (started : Bool) (outcome : Outcome)
  | LifecycleReset (started : Bool) (outcome : Outcome)
  | StopSwap
  | StopNative
  | DropSwap
  | DropStop
  | DropFree
deriving DecidableEq, Repr

inductive Event (ι : Type)
  | Called (thread : ι) (call : Call)
  | EvaluateEnter (thread : ι)
  | EvaluateExit (thread : ι) (ok : Bool)
  | CredentialsEnter (thread : ι)
  | CredentialsExit (thread : ι)
  | SelfTestEnter (thread : ι)
  | SelfTestExit (thread : ι)
  | LifecycleSet (thread : ι) (value : Lifecycle)
  | StopCleared (thread : ι)
  | ConnectEnter (thread : ι)
  | Started (thread : ι)
  | CoreExit (thread : ι)
  | ConnectExit (thread : ι)
  | StopSwapped (thread : ι) (previous : Bool)
  | NativeStop (thread : ι) (accepted : Bool)
  | Returned (thread : ι) (call : Call) (outcome : Outcome)
  | Freed (thread : ι)
deriving DecidableEq, Repr

-- `clones` counts the owners of Inner. A call borrows one of them until it
-- returns, so its thread is among the borrowers for that long.
structure State (ι : Type) where
  lifecycle : Lifecycle
  lock : Option ι
  stopRequested : Bool
  core : CorePhase
  connectStarted : Option ι
  clones : Nat
  borrowers : Finset ι
  freed : Bool
  frame : ι → Frame

inductive Label (ι : Type)
  | Evaluate (thread : ι) (config : Config)
  | ProvideCredentials (thread : ι)
  | CallbackSelfTest (thread : ι)
  | Connect (thread : ι) (started : Bool)
  | Stop (thread : ι)
  | Clone (thread : ι)
  | Drop (thread : ι)
  | Step (thread : ι)
  | NativeReturn (thread : ι) (outcome : Outcome)
deriving DecidableEq, Repr

def connectCall (started : Bool) : Call :=
  if started then .ConnectWithStarted else .Connect

section Model

variable {ι : Type} [DecidableEq ι]

def State.new : State ι where
  lifecycle := .New
  lock := none
  stopRequested := false
  core := .Unconnected
  connectStarted := none
  clones := 1
  borrowers := ∅
  freed := false
  frame := fun _ => .Idle

def State.goto (state : State ι) (thread : ι) (frame : Frame) : State ι :=
  { state with frame := fun other => if other = thread then frame else state.frame other }

-- Entering a call borrows a clone, leaving it gives the borrow back.
def State.enter (state : State ι) (thread : ι) (frame : Frame) : State ι :=
  { state with borrowers := insert thread state.borrowers }.goto thread frame

def State.leave (state : State ι) (thread : ι) : State ι :=
  { state with borrowers := state.borrowers.erase thread }.goto thread .Idle

def State.callable (state : State ι) (thread : ι) : Prop :=
  state.frame thread = .Idle ∧ 0 < state.clones

instance (state : State ι) (thread : ι) : Decidable (state.callable thread) :=
  inferInstanceAs (Decidable (_ ∧ _))

-- The capability check comes before the lifecycle lock.
def evaluate (capabilities : Capabilities) (state : State ι) (thread : ι) (config : Config) :
    State ι × List (Event ι) :=
  match config.validateCapabilities capabilities with
  | .error error => (state, [.Called thread .Evaluate, .Returned thread .Evaluate (.Err error)])
  | .ok () => (state.enter thread .EvaluateLock, [.Called thread .Evaluate])

def evaluateLocked (state : State ι) (thread : ι) : State ι × List (Event ι) :=
  match state.lifecycle with
  | .Connecting => (state.leave thread, [.Returned thread .Evaluate
      (.Err (.InvalidState "cannot evaluate a profile while the client is connecting"))])
  | .Finished => (state.leave thread, [.Returned thread .Evaluate
      (.Err (.InvalidState "an OpenVPN client supports one session; create a new client"))])
  | .New | .Ready =>
      ({ state with lock := some thread }.goto thread .EvaluateNative, [.EvaluateEnter thread])

def provideCredentialsLocked (state : State ι) (thread : ι) : State ι × List (Event ι) :=
  match state.lifecycle with
  | .New => (state.leave thread, [.Returned thread .ProvideCredentials
      (.Err (.InvalidState "evaluate a profile before providing credentials"))])
  | .Connecting => (state.leave thread, [.Returned thread .ProvideCredentials
      (.Err (.InvalidState "cannot replace credentials while the client is connecting"))])
  | .Finished => (state.leave thread, [.Returned thread .ProvideCredentials
      (.Err (.InvalidState "an OpenVPN client supports one session; create a new client"))])
  | .Ready =>
      ({ state with lock := some thread }.goto thread .CredentialsNative, [.CredentialsEnter thread])

-- Why a connect is refused in a lifecycle state, the check that
-- prepare_connect and ensure_connectable share.
def connectRefusal : Lifecycle → Option Error
  | .New => some (.InvalidState "evaluate a profile before connecting")
  | .Connecting => some (.InvalidState "the client is already connecting")
  | .Finished => some
      (.InvalidState "an OpenVPN client supports one session; create a new client")
  | .Ready => none

-- A refused connect_with_started still calls its closure. An admitted one
-- keeps the lifecycle lock until the stop flag is cleared.
def prepareConnect (state : State ι) (thread : ι) (started : Bool) : State ι × List (Event ι) :=
  match connectRefusal state.lifecycle with
  | some error => (state.leave thread,
      (if started then [.Started thread] else []) ++
        [.Returned thread (connectCall started) (.Err error)])
  | none =>
      ({ state with lifecycle := .Connecting, lock := some thread }.goto thread
        (.PrepareReset started), [.LifecycleSet thread .Connecting])

def ensureConnectable (state : State ι) : Except Error Unit :=
  match connectRefusal state.lifecycle with
  | some error => .error error
  | none => .ok ()

-- RustClient::notify_connect_started: the stored callback fires once.
def notifyConnectStarted (state : State ι) : State ι × List (Event ι) :=
  match state.connectStarted with
  | none => (state, [])
  | some thread => ({ state with connectStarted := none }, [.Started thread])

def stopSwap (state : State ι) (thread : ι) : State ι × List (Event ι) :=
  if state.stopRequested then
    (state.leave thread, [.StopSwapped thread true, .Returned thread .Stop .Ok])
  else
    ({ state with stopRequested := true }.goto thread .StopNative, [.StopSwapped thread false])

def dropSwap (state : State ι) (thread : ι) : State ι × List (Event ι) :=
  if state.stopRequested then
    (state.goto thread .DropFree, [.StopSwapped thread true])
  else
    ({ state with stopRequested := true }.goto thread .DropStop, [.StopSwapped thread false])

def State.accepting (state : State ι) : Bool := state.core == .Accepting

-- One step of a thread inside a call, where the source leaves no choice.
def stepFrame (state : State ι) (thread : ι) : Option (State ι × List (Event ι)) :=
  match state.frame thread with
  | .EvaluateLock => if state.lock = none then some (evaluateLocked state thread) else none
  | .CredentialsLock =>
      if state.lock = none then some (provideCredentialsLocked state thread) else none
  | .PrepareLock started =>
      if state.lock = none then some (prepareConnect state thread started) else none
  | .PrepareReset started => some
      ({ state with stopRequested := false, lock := none }.goto thread (.ConnectNative started),
        [.StopCleared thread])
  | .ConnectNative started => some
      ({ state with
          core := .Setup
          connectStarted := if started then some thread else none }.goto thread
        (.ConnectSetup started), [.ConnectEnter thread])
  | .ConnectSetup started =>
      some ({ state with core := .Accepting }.goto thread (.ConnectEnabled started), [])
  | .ConnectEnabled started | .ConnectRun started =>
      let (notified, seen) := notifyConnectStarted state
      some (notified.goto thread (.ConnectRun started), seen)
  | .CoreReturned started outcome =>
      -- the fallback notification of a return or a caught exception; an
      -- unwinding thread passes it by
      let (notified, seen) :=
        if outcome = .Unwound then (state, []) else notifyConnectStarted state
      some (notified.goto thread (.LifecycleReset started outcome), seen ++ [.ConnectExit thread])
  | .LifecycleReset started outcome =>
      if state.lock = none then
        some ({ state with lifecycle := .Finished }.leave thread,
          [.LifecycleSet thread .Finished, .Returned thread (connectCall started) outcome])
      else none
  | .StopSwap => some (stopSwap state thread)
  | .StopNative => some (state.leave thread,
      [.NativeStop thread state.accepting, .Returned thread .Stop .Ok])
  | .DropSwap => some (dropSwap state thread)
  | .DropStop => some (state.goto thread .DropFree, [.NativeStop thread state.accepting])
  | .DropFree => some ({ state with freed := true }.goto thread .Idle, [.Freed thread])
  | .Idle | .EvaluateNative | .CredentialsNative | .SelfTestNative => none

-- A native call comes back with any outcome.
def nativeReturn (state : State ι) (thread : ι) (outcome : Outcome) :
    Option (State ι × List (Event ι)) :=
  match state.frame thread with
  | .EvaluateNative =>
      if outcome = .Ok then
        some ({ state with lifecycle := .Ready, lock := none }.leave thread,
          [.EvaluateExit thread true, .LifecycleSet thread .Ready, .Returned thread .Evaluate .Ok])
      else
        some ({ state with lock := none }.leave thread,
          [.EvaluateExit thread false, .Returned thread .Evaluate outcome])
  | .CredentialsNative => some ({ state with lock := none }.leave thread,
      [.CredentialsExit thread, .Returned thread .ProvideCredentials outcome])
  | .SelfTestNative => some (state.leave thread,
      [.SelfTestExit thread, .Returned thread .CallbackSelfTest outcome])
  | .ConnectSetup started | .ConnectEnabled started | .ConnectRun started =>
      some ({ state with core := .Returned }.goto thread (.CoreReturned started outcome),
        [.CoreExit thread])
  | _ => none

def step (capabilities : Capabilities) (state : State ι) : Label ι → Option (State ι × List (Event ι))
  | .Evaluate thread config =>
      if state.callable thread then some (evaluate capabilities state thread config) else none
  | .ProvideCredentials thread =>
      if state.callable thread then
        some (state.enter thread .CredentialsLock, [.Called thread .ProvideCredentials])
      else none
  | .CallbackSelfTest thread =>
      if state.callable thread then
        some (state.enter thread .SelfTestNative,
          [.Called thread .CallbackSelfTest, .SelfTestEnter thread])
      else none
  | .Connect thread started =>
      if state.callable thread then
        some (state.enter thread (.PrepareLock started), [.Called thread (connectCall started)])
      else none
  | .Stop thread =>
      if state.callable thread then
        some (state.enter thread .StopSwap, [.Called thread .Stop])
      else none
  | .Clone thread =>
      if state.callable thread then some ({ state with clones := state.clones + 1 }, []) else none
  | .Drop thread =>
      -- a borrowed clone outlives the call that borrows it
      if state.callable thread ∧ (2 ≤ state.clones ∨ state.borrowers = ∅) then
        if 2 ≤ state.clones then some ({ state with clones := state.clones - 1 }, [])
        else some ({ state with clones := 0 }.goto thread .DropSwap, [])
      else none
  | .Step thread => stepFrame state thread
  | .NativeReturn thread outcome => nativeReturn state thread outcome

def machine (capabilities : Capabilities) : Transition.Machine (State ι) (Label ι) (Event ι) where
  step := step capabilities

end Model

end OpenvpnConnect.Client
