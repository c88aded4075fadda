import OpenvpnConnect.Commands.Basic

namespace OpenvpnConnect.Commands

open Transition
open OpenvpnConnect.Tokio (Command Branch)

section Driver

variable {ι : Type}

-- The command that the driver has taken and not begun.
def Driver.taken : Driver ι → List Entry
  | .RunCommand entry => [entry]
  | _ => []

def Driver.running : Driver ι → List Entry
  | .Executing entry => [entry]
  | _ => []

def Driver.replying : Driver ι → Option (Entry × Reply ι)
  | .Replying entry reply => some (entry, reply)
  | _ => none

def Driver.idle (driver : Driver ι) : Prop :=
  driver.taken = [] ∧ driver.running = [] ∧ driver.replying = none

-- The loop is over and the receiver is going.
def Driver.drains : Driver ι → Bool
  | .Draining | .Exited => true
  | _ => false

end Driver

section Moves

variable {ι : Type}

def Phase.sending : Phase ι → Bool
  | .Reserving | .Reserved => true
  | _ => false

@[simp] theorem State.goto_commands (state : State ι) (id : Nat) (phase : Phase ι) :
    (state.goto id phase).commands = state.commands := rfl

@[simp] theorem State.goto_driver (state : State ι) (id : Nat) (phase : Phase ι) :
    (state.goto id phase).driver = state.driver := rfl

@[simp] theorem State.goto_slot (state : State ι) (id : Nat) (phase : Phase ι) :
    (state.goto id phase).slot = state.slot := rfl

@[simp] theorem State.setSlot_driver (state : State ι) (id : Nat) (slot : Slot ι) :
    (state.setSlot id slot).driver = state.driver := rfl

-- What the ledgers of a run are about.
def State.same (state after : State ι) : Prop :=
  after.calls = state.calls ∧ after.future = state.future ∧ after.slot = state.slot ∧
    after.commands = state.commands

-- The steps, with those told apart that touch a future, a oneshot or a command.
inductive Move (state : State ι) : State ι → List (Event ι) → Prop
  | Aside {after : State ι} : state.same after → after.driver = state.driver → Move state after []
  | Passed {after : State ι} {seen : List (Event ι)} : state.same after → state.driver.idle →
      after.driver.idle → (state.driver.drains → after.driver.drains) →
      (seen = [] ∨ seen = [.Stopped]) → Move state after seen
  | Called (handle : Nat) (command : Command) :
      Move state ({ state with calls := state.calls + 1 }.setFuture state.calls ⟨handle, command, .Reserving⟩)
        [.Called state.calls command]
  | Reserved {id permits : Nat} : (state.future id).phase = .Reserving →
      Move state ({ state with permits := permits }.goto id .Reserved) []
  | Refused {id : Nat} : (state.future id).phase = .Reserving →
      Move state ((state.setSlot id .Closed).goto id (.Ready (.error .SessionClosed)))
        [.Returned id (.error .SessionClosed)]
  | Sent {id : Nat} : (state.future id).phase = .Reserved →
      Move state
        ({ state with commands := state.commands ++ [Entry.mk id (state.future id).command] }.goto id .Waiting)
        [.Enqueued ⟨id, (state.future id).command⟩]
  | Answered {id : Nat} {reply : Reply ι} : (state.future id).phase = .Waiting →
      state.slot id = .Sent reply →
      Move state (state.goto id (.Ready (.ok reply))) [.Returned id (.ok reply)]
  | Closed {id : Nat} : (state.future id).phase = .Waiting → state.slot id = .Closed →
      Move state (state.goto id (.Ready (.error .SessionClosed))) [.Returned id (.error .SessionClosed)]
  | Withdrawn {id permits : Nat} : (state.future id).phase.sending →
      Move state ({ state.setSlot id .Closed with permits := permits }.goto id .Dropped) [.Abandoned id]
  | Dropped {id : Nat} : (state.future id).phase = .Waiting →
      Move state (state.goto id .Dropped) [.Abandoned id]
  | Taken {entry : Entry} {rest : List Entry} {permits : Nat} : state.driver = .Select →
      state.commands = entry :: rest →
      Move state { state with commands := rest, permits := permits, driver := .RunCommand entry } []
  | Began {entry : Entry} : state.driver = .RunCommand entry →
      Move state { state with driver := .Executing entry } [.Began entry (blocking entry.command)]
  | Ended {entry : Entry} {reply : Reply ι} : state.driver = .Executing entry →
      reply.answers entry.command →
      Move state { state with driver := .Replying entry reply } [.Ended entry reply]
  | Replied {entry : Entry} {reply : Reply ι} : state.driver = .Replying entry reply →
      Move state { state.setSlot entry.id (.Sent reply) with driver := .Select } []
  | Discarded {entry : Entry} {rest : List Entry} : state.driver = .Draining →
      state.commands = entry :: rest →
      Move state { state.setSlot entry.id .Closed with commands := rest } [.Discarded entry]

theorem poll_move {state after : State ι} {id : Nat} {seen : List (Event ι)}
    (hstep : poll state id = some (after, seen)) : Move state after seen := by
  unfold poll at hstep
  split at hstep
  · rename_i hphase
    split at hstep
    · obtain ⟨-, he⟩ := Option.ite_none_right_eq_some.mp hstep
      obtain ⟨rfl, rfl⟩ := Prod.mk.inj (Option.some.inj he)
      exact .Reserved hphase
    · obtain ⟨rfl, rfl⟩ := Prod.mk.inj (Option.some.inj hstep)
      exact .Refused hphase
  · rename_i hphase
    obtain ⟨rfl, rfl⟩ := Prod.mk.inj (Option.some.inj hstep)
    exact .Sent hphase
  · rename_i hphase
    split at hstep
    · cases hstep
    · rename_i reply hslot
      obtain ⟨rfl, rfl⟩ := Prod.mk.inj (Option.some.inj hstep)
      exact .Answered hphase hslot
    · rename_i hslot
      obtain ⟨rfl, rfl⟩ := Prod.mk.inj (Option.some.inj hstep)
      exact .Closed hphase hslot
  · cases hstep

theorem dropFuture_move {state after : State ι} {id : Nat} {seen : List (Event ι)}
    (hstep : dropFuture state id = some (after, seen)) : Move state after seen := by
  unfold dropFuture at hstep
  split at hstep
  · rename_i hphase
    obtain ⟨rfl, rfl⟩ := Prod.mk.inj (Option.some.inj hstep)
    have hsending : (state.future id).phase.sending := by rw [hphase]; rfl
    exact .Withdrawn hsending
  · rename_i hphase
    obtain ⟨rfl, rfl⟩ := Prod.mk.inj (Option.some.inj hstep)
    have hsending : (state.future id).phase.sending := by rw [hphase]; rfl
    exact .Withdrawn hsending
  · rename_i hphase
    obtain ⟨rfl, rfl⟩ := Prod.mk.inj (Option.some.inj hstep)
    exact .Dropped hphase
  · cases hstep

theorem receive_move {state after : State ι} {seen : List (Event ι)} (hselect : state.driver = .Select)
    (hstep : receive state = some (after, seen)) : Move state after seen := by
  unfold receive at hstep
  split at hstep
  · rename_i entry rest hcommands
    obtain ⟨rfl, rfl⟩ := Prod.mk.inj (Option.some.inj hstep)
    exact .Taken hselect hcommands
  · obtain ⟨-, he⟩ := Option.ite_none_right_eq_some.mp hstep
    obtain ⟨rfl, rfl⟩ := Prod.mk.inj (Option.some.inj he)
    exact .Aside ⟨rfl, rfl, rfl, rfl⟩ rfl

theorem passed_move {state next after : State ι} {driver : Driver ι} {shown seen : List (Event ι)}
    (he : some (next, shown) = some (after, seen)) (hdriver : state.driver = driver)
    (hidle : driver.idle) (hsame : state.same next) (hnext : next.driver.idle)
    (hdrains : driver.drains → next.driver.drains) (hshown : shown = [] ∨ shown = [.Stopped]) :
    Move state after seen := by
  obtain ⟨rfl, rfl⟩ := Prod.mk.inj (Option.some.inj he)
  subst hdriver
  exact .Passed hsame hidle hnext hdrains hshown

theorem drive_move {state after : State ι} {branch : Branch} {seen : List (Event ι)}
    (hstep : drive state branch = some (after, seen)) : Move state after seen := by
  unfold drive at hstep
  have hidle : ∀ {driver : Driver ι}, driver.taken = [] → driver.running = [] → driver.replying = none →
      driver.idle := fun htaken hrunning hreplying => ⟨htaken, hrunning, hreplying⟩
  cases hdriver : state.driver with
  | Select =>
      simp only [hdriver] at hstep
      have hno : ¬(Driver.Select : Driver ι).drains := by simp [Driver.drains]
      cases branch with
      | Joined =>
          obtain ⟨-, he⟩ := Option.ite_none_right_eq_some.mp hstep
          exact passed_move he hdriver (hidle rfl rfl rfl) ⟨rfl, rfl, rfl, rfl⟩ (hidle rfl rfl rfl)
            (fun h => absurd h hno) (.inl rfl)
      | Cancelled =>
          obtain ⟨-, he⟩ := Option.ite_none_right_eq_some.mp hstep
          exact passed_move he hdriver (hidle rfl rfl rfl) ⟨rfl, rfl, rfl, rfl⟩ (hidle rfl rfl rfl)
            (fun h => absurd h hno) (.inr rfl)
      | Command =>
          obtain ⟨-, he⟩ := Option.ite_none_right_eq_some.mp hstep
          exact receive_move hdriver he
  | RunCommand | Executing | Exited => simp [hdriver] at hstep
  | Replying entry reply =>
      simp only [hdriver] at hstep
      obtain ⟨rfl, rfl⟩ := Prod.mk.inj (Option.some.inj hstep)
      exact .Replied hdriver
  | AwaitJoin =>
      simp only [hdriver] at hstep
      obtain ⟨-, he⟩ := Option.ite_none_right_eq_some.mp hstep
      exact passed_move he hdriver (hidle rfl rfl rfl) ⟨rfl, rfl, rfl, rfl⟩ (hidle rfl rfl rfl)
        (fun h => by simp [Driver.drains] at h) (.inl rfl)
  | Guard =>
      simp only [hdriver] at hstep
      exact passed_move hstep hdriver (hidle rfl rfl rfl) ⟨rfl, rfl, rfl, rfl⟩ (hidle rfl rfl rfl)
        (fun h => by simp [Driver.drains] at h) (.inr rfl)
  | Complete =>
      simp only [hdriver] at hstep
      exact passed_move hstep hdriver (hidle rfl rfl rfl) ⟨rfl, rfl, rfl, rfl⟩ (hidle rfl rfl rfl)
        (fun h => by simp [Driver.drains] at h) (.inl rfl)
  | Closing =>
      simp only [hdriver] at hstep
      exact passed_move hstep hdriver (hidle rfl rfl rfl) ⟨rfl, rfl, rfl, rfl⟩ (hidle rfl rfl rfl)
        (fun _ => rfl) (.inl rfl)
  | Draining =>
      simp only [hdriver] at hstep
      split at hstep
      · rename_i entry rest hcommands
        obtain ⟨rfl, rfl⟩ := Prod.mk.inj (Option.some.inj hstep)
        exact .Discarded hdriver hcommands
      · exact passed_move hstep hdriver (hidle rfl rfl rfl) ⟨rfl, rfl, rfl, rfl⟩ (hidle rfl rfl rfl)
          (fun _ => rfl) (.inl rfl)

theorem step_move {state after : State ι} {label : Label ι} {seen : List (Event ι)}
    (hstep : machine.step state label = some (after, seen)) : Move state after seen := by
  have hstep : step state label = some (after, seen) := hstep
  cases label with
  | Clone handle | DropHandle handle =>
      obtain ⟨-, he⟩ := Option.ite_none_right_eq_some.mp hstep
      obtain ⟨rfl, rfl⟩ := Prod.mk.inj (Option.some.inj he)
      exact .Aside ⟨rfl, rfl, rfl, rfl⟩ rfl
  | Call handle command =>
      obtain ⟨-, he⟩ := Option.ite_none_right_eq_some.mp hstep
      obtain ⟨rfl, rfl⟩ := Prod.mk.inj (Option.some.inj he)
      exact .Called handle command
  | Poll id => exact poll_move hstep
  | DropFuture id => exact dropFuture_move hstep
  | Cancel | Join =>
      obtain ⟨rfl, rfl⟩ := Prod.mk.inj (Option.some.inj hstep)
      exact .Aside ⟨rfl, rfl, rfl, rfl⟩ rfl
  | Begin =>
      simp only [step] at hstep
      split at hstep
      · rename_i entry hdriver
        obtain ⟨rfl, rfl⟩ := Prod.mk.inj (Option.some.inj hstep)
        exact .Began hdriver
      · cases hstep
  | Finish reply =>
      simp only [step] at hstep
      split at hstep
      · rename_i entry hdriver
        obtain ⟨hanswers, he⟩ := Option.ite_none_right_eq_some.mp hstep
        obtain ⟨rfl, rfl⟩ := Prod.mk.inj (Option.some.inj he)
        exact .Ended hdriver hanswers
      · cases hstep
  | Drive branch => exact drive_move hstep

end Moves

end OpenvpnConnect.Commands
