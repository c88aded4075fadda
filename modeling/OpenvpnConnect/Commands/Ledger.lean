import OpenvpnConnect.Commands.Moves
import OpenvpnConnect.Transition.Trace

namespace OpenvpnConnect.Commands

open Transition
open OpenvpnConnect.Tokio (Command)

section Ledger

variable {ι : Type}

def Event.enqueues : Event ι → Option Entry
  | .Enqueued entry => some entry
  | _ => none

def Event.begins : Event ι → Option Entry
  | .Began entry _ => some entry
  | _ => none

def Event.ends : Event ι → Option Entry
  | .Ended entry _ => some entry
  | _ => none

def Event.discards : Event ι → Option Entry
  | .Discarded entry => some entry
  | _ => none

-- The commands of a trace in the order in which they enter the channel, begin
-- and end on Core, and go with the receiver.
def enqueued (trace : List (Event ι)) : List Entry := trace.filterMap Event.enqueues

def began (trace : List (Event ι)) : List Entry := trace.filterMap Event.begins

def ended (trace : List (Event ι)) : List Entry := trace.filterMap Event.ends

def discarded (trace : List (Event ι)) : List Entry := trace.filterMap Event.discards

@[simp] theorem enqueued_append (trace seen : List (Event ι)) :
    enqueued (trace ++ seen) = enqueued trace ++ enqueued seen := List.filterMap_append

@[simp] theorem began_append (trace seen : List (Event ι)) :
    began (trace ++ seen) = began trace ++ began seen := List.filterMap_append

@[simp] theorem ended_append (trace seen : List (Event ι)) :
    ended (trace ++ seen) = ended trace ++ ended seen := List.filterMap_append

@[simp] theorem discarded_append (trace seen : List (Event ι)) :
    discarded (trace ++ seen) = discarded trace ++ discarded seen := List.filterMap_append

-- Every enqueued command has begun, is with the driver, went with the receiver
-- or is in the channel, and what has begun has ended but for one.
structure Ledger (trace : List (Event ι)) (state : State ι) : Prop where
  flow : enqueued trace = began trace ++ state.driver.taken ++ discarded trace ++ state.commands
  serial : began trace = ended trace ++ state.driver.running
  kept : state.driver.drains = false → discarded trace = []

theorem ledger_new (capacity : Nat) : Ledger [] (.new capacity : State ι) where
  flow := rfl
  serial := rfl
  kept := fun _ => rfl

-- A step that shows nothing of a command and leaves it where it is.
theorem Ledger.quiet {trace seen : List (Event ι)} {state after : State ι} (hl : Ledger trace state)
    (hcommands : after.commands = state.commands) (htaken : after.driver.taken = state.driver.taken)
    (hrunning : after.driver.running = state.driver.running)
    (hdrains : state.driver.drains → after.driver.drains)
    (hquiet : enqueued seen = [] ∧ began seen = [] ∧ ended seen = [] ∧ discarded seen = []) :
    Ledger (trace ++ seen) after := by
  obtain ⟨henqueued, hbegan, hended, hdiscarded⟩ := hquiet
  refine ⟨?_, ?_, ?_⟩
  · rw [enqueued_append, began_append, discarded_append, henqueued, hbegan, hdiscarded, hcommands, htaken]
    simpa using hl.flow
  · rw [began_append, ended_append, hbegan, hended, hrunning]
    simpa using hl.serial
  · intro hafter
    rw [discarded_append, hdiscarded, List.append_nil]
    apply hl.kept
    cases hbefore : state.driver.drains with
    | false => rfl
    | true => rw [hdrains hbefore] at hafter; cases hafter

theorem Ledger.step {trace seen : List (Event ι)} {state after : State ι} (hl : Ledger trace state)
    (hm : Move state after seen) : Ledger (trace ++ seen) after := by
  cases hm with
  | Aside hsame hdriver =>
      exact hl.quiet hsame.2.2.2 (by rw [hdriver]) (by rw [hdriver]) (by rw [hdriver]; exact id)
        ⟨rfl, rfl, rfl, rfl⟩
  | Passed hsame hidle hnext hdrains hseen =>
      have hquiet : enqueued seen = [] ∧ began seen = [] ∧ ended seen = [] ∧ discarded seen = [] := by
        rcases hseen with rfl | rfl
        · exact ⟨rfl, rfl, rfl, rfl⟩
        · exact ⟨rfl, rfl, rfl, rfl⟩
      exact hl.quiet hsame.2.2.2 (hnext.1.trans hidle.1.symm) (hnext.2.1.trans hidle.2.1.symm) hdrains
        hquiet
  | Called | Reserved | Refused | Answered | Closed | Withdrawn | Dropped =>
      exact hl.quiet rfl rfl rfl id ⟨rfl, rfl, rfl, rfl⟩
  | Sent =>
      refine ⟨?_, ?_, ?_⟩
      · rw [enqueued_append, began_append, discarded_append, hl.flow]
        simp [enqueued, began, discarded, filterMap_cons_toList, Event.enqueues, Event.begins, Event.discards]
      · simpa [began, ended, filterMap_cons_toList, Event.begins, Event.ends] using hl.serial
      · simpa [discarded, filterMap_cons_toList, Event.discards] using hl.kept
  | Taken hselect hcommands =>
      have hflow := hl.flow
      have hkept := hl.kept (by rw [hselect]; rfl)
      rw [hselect, hkept, hcommands] at hflow
      refine ⟨?_, ?_, fun _ => by simpa using hkept⟩
      · simpa [Driver.taken, hkept] using hflow
      · have hserial := hl.serial
        rw [hselect] at hserial
        simpa [Driver.running] using hserial
  | Began hdriver =>
      have hflow := hl.flow
      have hserial := hl.serial
      have hkept := hl.kept (by rw [hdriver]; rfl)
      rw [hdriver] at hflow hserial
      refine ⟨?_, ?_, fun _ => by simpa [discarded, filterMap_cons_toList, Event.discards] using hkept⟩
      · simpa [Driver.taken, hkept, enqueued, began, discarded, filterMap_cons_toList, Event.enqueues, Event.begins,
          Event.discards] using hflow
      · simpa [Driver.running, began, ended, filterMap_cons_toList, Event.begins, Event.ends] using hserial
  | Ended hdriver =>
      have hflow := hl.flow
      have hserial := hl.serial
      have hkept := hl.kept (by rw [hdriver]; rfl)
      rw [hdriver] at hflow hserial
      refine ⟨?_, ?_, fun _ => by simpa [discarded, filterMap_cons_toList, Event.discards] using hkept⟩
      · simpa [Driver.taken, hkept, enqueued, began, discarded, filterMap_cons_toList, Event.enqueues, Event.begins,
          Event.discards] using hflow
      · simpa [Driver.running, began, ended, filterMap_cons_toList, Event.begins, Event.ends] using hserial
  | Replied hdriver =>
      exact hl.quiet rfl (by rw [hdriver]; rfl) (by rw [hdriver]; rfl)
        (by rw [hdriver]; exact fun h => by cases h) ⟨rfl, rfl, rfl, rfl⟩
  | Discarded hdriver hcommands =>
      have hflow := hl.flow
      have hserial := hl.serial
      rw [hdriver] at hserial
      rw [hdriver, hcommands] at hflow
      refine ⟨?_, ?_, fun hdrains => ?_⟩
      · simpa [hdriver, Driver.taken, enqueued, began, discarded, filterMap_cons_toList, Event.enqueues, Event.begins,
          Event.discards] using hflow
      · simpa [hdriver, Driver.running, began, ended, filterMap_cons_toList, Event.begins, Event.ends] using hserial
      · simp [hdriver, Driver.drains] at hdrains

theorem run_ledger {guard : List (Event ι) → State ι → Label ι → Prop} {capacity : Nat}
    {trace : List (Event ι)} {last : State ι}
    (hrun : Run machine guard (.new capacity) trace last) : Ledger trace last :=
  hrun.invariant Ledger (ledger_new capacity) fun _ _ _ _ _ hl _ hstep => hl.step (step_move hstep)

-- What executes is, in order, what was enqueued first.
theorem Ledger.began_prefix {trace : List (Event ι)} {state : State ι} (hl : Ledger trace state) :
    began trace <+: enqueued trace := by
  rw [hl.flow, List.append_assoc, List.append_assoc]
  exact List.prefix_append _ _

-- Core executes one command at a time, and gives back what the command asks for.
def Serial (front : List (Event ι)) : Event ι → Prop
  | .Began _ _ => began front = ended front
  | .Ended entry reply => began front = ended front ++ [entry] ∧ reply.answers entry.command
  | _ => True

theorem Move.serial {trace seen : List (Event ι)} {state after : State ι} (hl : Ledger trace state)
    (hm : Move state after seen) : AlwaysFrom Serial trace seen := by
  cases hm with
  | Began hdriver =>
      have hserial := hl.serial
      rw [hdriver] at hserial
      exact ⟨hserial.trans (List.append_nil _), trivial⟩
  | Ended hdriver hanswers =>
      have hserial := hl.serial
      rw [hdriver] at hserial
      exact ⟨⟨hserial, hanswers⟩, trivial⟩
  | Passed _ _ _ _ hseen =>
      rcases hseen with rfl | rfl
      · trivial
      · exact ⟨trivial, trivial⟩
  | Aside | Reserved | Taken | Replied => trivial
  | _ => exact ⟨trivial, trivial⟩

theorem run_serial {guard : List (Event ι) → State ι → Label ι → Prop} {capacity : Nat}
    {trace : List (Event ι)} {last : State ι}
    (hrun : Run machine guard (.new capacity) trace last) : Always Serial trace :=
  hrun.invariant_with Ledger (fun trace _ => Always Serial trace) (fun _ _ h => run_ledger h)
    (always_nil _) fun _ _ _ _ _ hl halways _ hstep => halways.append ((step_move hstep).serial hl)

end Ledger

end OpenvpnConnect.Commands
