import OpenvpnConnect.Error
import Mathlib.Data.List.Basic

namespace OpenvpnConnect.Client.Signal

-- A C++ exception, as the handlers tell them apart.
inductive Exception
  | Std (what : String)
  | Unknown
deriving DecidableEq, Repr

structure Status where
  error : Bool
  status : String
  message : String
deriving DecidableEq, Repr

-- What OpenVPNClient::connect does, as far as the adapter sees it: it enters the
-- override of connect_run any number of times, then it returns or throws. What
-- the run itself throws is what follows.
inductive Core
  | Returns (status : Status)
  | Throws (exception : Exception)
  | Runs (rest : Core)
deriving DecidableEq, Repr

-- The closure of a caller, which may panic.
structure Closure where
  panics : Bool
deriving DecidableEq, Repr

abbrev Address := Nat

inductive Callback
  | StartedCallback
deriving DecidableEq, Repr

inductive Event
  | ConnectRun
  | Started
  | Dangling
deriving DecidableEq, Repr

-- The pair that a RustClient stores, the frames of connect_with_started that are
-- on the stack with what their Option holds, and what has happened.
structure State where
  connectStarted : Option Callback
  connectStartedContext : Option Address
  stack : Address → Option (Option Closure)
  trace : List Event

def State.observe (state : State) (event : Event) : State := { state with trace := state.trace ++ [event] }

def State.place (state : State) (address : Address) (frame : Option (Option Closure)) : State :=
  { state with stack := fun other => if other = address then frame else state.stack other }

def setConnectStarted (state : State) (context : Option Address) (callback : Option Callback) : State :=
  { state with connectStartedContext := context, connectStarted := callback }

-- Whether it unwinds.
def invoke (closure : Closure) (state : State) : Bool × State := (closure.panics, state.observe .Started)

-- The closure is taken out of its Option; its panic is caught.
def startedCallback (context : Option Address) (state : State) : State :=
  match context with
  | none => state
  | some address =>
      match state.stack address with
      | none => state.observe .Dangling
      | some none => state
      | some (some closure) => (invoke closure (state.place address (some none))).2

def notifyConnectStarted (state : State) : State :=
  let cleared := setConnectStarted state none none
  match state.connectStarted with
  | none => cleared
  | some .StartedCallback => startedCallback state.connectStartedContext cleared

def connectRun (state : State) : State := notifyConnectStarted (state.observe .ConnectRun)

def connect : Core → State → Except Exception Status × State
  | .Returns status, state => (.ok status, state)
  | .Throws exception, state => (.error exception, state)
  | .Runs rest, state => connect rest (connectRun state)

def errorStatus (message : String) : Status := ⟨true, "FFI_ERROR", message⟩

def ovpnClientConnectStarted (core : Core) (context : Option Address) (started : Option Callback) (state : State) :
    Status × State :=
  match connect core (setConnectStarted state context started) with
  | (.ok result, state) => (result, notifyConnectStarted state)
  | (.error (.Std what), state) => (errorStatus what, notifyConnectStarted state)
  | (.error .Unknown, state) =>
      (errorStatus "unknown exception while connecting OpenVPN client", notifyConnectStarted state)

def statusResult (raw : Status) : Except Error Status :=
  if raw.error then .error (.Core raw.status raw.message) else .ok raw

-- The closure lives in the frame at `here` until the call returns.
def nativeConnectWithStarted (core : Core) (here : Address) (started : Closure) (state : State) :
    Except Error Status × State :=
  let (raw, state) := ovpnClientConnectStarted core (some here) (some .StartedCallback)
    (state.place here (some (some started)))
  (statusResult raw, state.place here none)

inductive Outcome
  | Returned (result : Except Error Status)
  | Unwound

-- `preparation` is the result of prepare_connect.
def connectWithStarted (preparation : Except Error Unit) (core : Core) (here : Address) (started : Closure)
    (state : State) : Outcome × State :=
  match preparation with
  | .error error =>
      let (unwound, state) := invoke started state
      (if unwound then .Unwound else .Returned (.error error), state)
  | .ok () =>
      let (result, state) := nativeConnectWithStarted core here started state
      (.Returned result, state)

section Once

def State.new : State := ⟨none, none, fun _ => none, []⟩

-- No pair is stored.
structure Clean (state : State) : Prop where
  callback : state.connectStarted = none
  context : state.connectStartedContext = none

-- The stored pair is that of the closure in the frame at `here`.
structure Armed (here : Address) (started : Closure) (state : State) : Prop where
  callback : state.connectStarted = some .StartedCallback
  context : state.connectStartedContext = some here
  frame : state.stack here = some (some started)

-- How often connect_run is entered.
def Core.runs : Core → Nat
  | .Returns _ => 0
  | .Throws _ => 0
  | .Runs rest => rest.runs + 1

def entered (count : Nat) : List Event := List.replicate count .ConnectRun

-- The signal comes with the first entry of connect_run, or with the end.
def signal (count : Nat) : List Event :=
  match count with
  | 0 => [.Started]
  | more + 1 => .ConnectRun :: .Started :: entered more

theorem clean_new : Clean State.new := ⟨rfl, rfl⟩

theorem notify_clean {state : State} (hclean : Clean state) : notifyConnectStarted state = state := by
  have hcallback := hclean.callback
  have hcontext := hclean.context
  cases state
  cases hcallback
  cases hcontext
  rfl

theorem notify_armed {here : Address} {started : Closure} {state : State} (harmed : Armed here started state) :
    Clean (notifyConnectStarted state) ∧ (notifyConnectStarted state).trace = state.trace ++ [.Started] := by
  have hfired : notifyConnectStarted state =
      ((setConnectStarted state none none).place here (some none)).observe .Started := by
    rw [notifyConnectStarted, harmed.callback, harmed.context]
    show (match state.stack here with
      | none => _
      | some none => _
      | some (some closure) => _) = _
    rw [harmed.frame]
    rfl
  rw [hfired]
  exact ⟨⟨rfl, rfl⟩, rfl⟩

theorem connect_clean (core : Core) {state : State} (hclean : Clean state) :
    Clean (connect core state).2 ∧ (connect core state).2.trace = state.trace ++ entered core.runs := by
  induction core generalizing state with
  | Returns status => exact ⟨hclean, (List.append_nil _).symm⟩
  | Throws exception => exact ⟨hclean, (List.append_nil _).symm⟩
  | Runs rest ih =>
      have hnext : Clean (state.observe .ConnectRun) := ⟨hclean.callback, hclean.context⟩
      obtain ⟨hafter, htrace⟩ := ih hnext
      rw [connect, connectRun, notify_clean hnext]
      refine ⟨hafter, ?_⟩
      rw [htrace, State.observe, List.append_assoc]
      rfl

-- The call and the notification after it, whatever Core does.
theorem notify_connect {here : Address} {started : Closure} (core : Core) {state : State}
    (harmed : Armed here started state) :
    Clean (notifyConnectStarted (connect core state).2) ∧
      (notifyConnectStarted (connect core state).2).trace = state.trace ++ signal core.runs := by
  cases core with
  | Returns status => exact notify_armed harmed
  | Throws exception => exact notify_armed harmed
  | Runs rest =>
      have hentered : Armed here started (state.observe .ConnectRun) :=
        ⟨harmed.callback, harmed.context, harmed.frame⟩
      obtain ⟨hclean, htrace⟩ := notify_armed hentered
      obtain ⟨hafter, hrest⟩ := connect_clean rest hclean
      rw [connect, connectRun, notify_clean hafter]
      refine ⟨hafter, ?_⟩
      rw [hrest, htrace, State.observe, List.append_assoc, List.append_assoc]
      rfl

theorem ovpnClientConnectStarted_state (core : Core) (context : Option Address) (callback : Option Callback)
    (state : State) : (ovpnClientConnectStarted core context callback state).2 =
      notifyConnectStarted (connect core (setConnectStarted state context callback)).2 := by
  rw [ovpnClientConnectStarted]
  split
  · rename_i heq
    rw [heq]
  · rename_i heq
    rw [heq]
  · rename_i heq
    rw [heq]

theorem native_signals (core : Core) (here : Address) (started : Closure) (state : State) :
    Clean (nativeConnectWithStarted core here started state).2 ∧
      (nativeConnectWithStarted core here started state).2.trace = state.trace ++ signal core.runs := by
  have harmed : Armed here started (setConnectStarted (state.place here (some (some started))) (some here)
      (some .StartedCallback)) := ⟨rfl, rfl, if_pos rfl⟩
  obtain ⟨hclean, htrace⟩ := notify_connect core harmed
  rw [← ovpnClientConnectStarted_state] at hclean htrace
  exact ⟨⟨hclean.callback, hclean.context⟩, htrace⟩

theorem signal_once (count : Nat) : (signal count).count .Started = 1 ∧ .Dangling ∉ signal count := by
  cases count with
  | zero => exact ⟨rfl, by decide⟩
  | succ more =>
      have hstarted : Event.Started ∉ entered more := fun hmem => (by cases List.eq_of_mem_replicate hmem)
      have hdangling : Event.Dangling ∉ entered more := fun hmem => (by cases List.eq_of_mem_replicate hmem)
      simp [signal, List.count_eq_zero.mpr hstarted, hdangling]

-- The closure is called once, and where Core runs as soon as that has begun; no
-- pair is left behind.
theorem started_exactly_once {state : State} (hclean : Clean state) (preparation : Except Error Unit) (core : Core)
    (here : Address) (started : Closure) :
    ∃ seen, (connectWithStarted preparation core here started state).2.trace = state.trace ++ seen ∧
      seen.count .Started = 1 ∧ .Dangling ∉ seen ∧
      (preparation = .ok () → core.runs ≠ 0 → ∃ after, seen = .ConnectRun :: .Started :: after) ∧
      (.ConnectRun ∈ seen → preparation = .ok () ∧ core.runs ≠ 0) ∧
      Clean (connectWithStarted preparation core here started state).2 := by
  cases preparation with
  | error error =>
      refine ⟨[.Started], rfl, rfl, by decide, fun hok => ?_, fun hrun => ?_, hclean.callback, hclean.context⟩
      · cases hok
      · cases List.mem_singleton.mp hrun
  | ok _ =>
      obtain ⟨hafter, htrace⟩ := native_signals core here started state
      refine ⟨signal core.runs, htrace, (signal_once core.runs).1, (signal_once core.runs).2, ?_, ?_, hafter⟩
      · intro _ hruns
        obtain ⟨more, hmore⟩ := Nat.exists_eq_succ_of_ne_zero hruns
        rw [hmore]
        exact ⟨entered more, rfl⟩
      · intro hrun
        refine ⟨rfl, fun hzero => ?_⟩
        rw [hzero] at hrun
        cases List.mem_singleton.mp hrun

-- Core runs twice and throws, and the closure panics.
theorem started_exactly_once_rerun : ∃ seen,
    (connectWithStarted (.ok ()) (.Runs (.Runs (.Throws .Unknown))) 0 ⟨true⟩ State.new).2.trace = seen ∧
      seen.count .Started = 1 ∧ ∃ after, seen = .ConnectRun :: .Started :: after := by
  obtain ⟨seen, htrace, hcount, _, hruns, _⟩ :=
    started_exactly_once clean_new (.ok ()) (.Runs (.Runs (.Throws .Unknown))) 0 ⟨true⟩
  exact ⟨seen, htrace, hcount, hruns rfl (by decide)⟩

end Once

end OpenvpnConnect.Client.Signal
