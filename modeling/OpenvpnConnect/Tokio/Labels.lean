import OpenvpnConnect.Tokio.Moves

namespace OpenvpnConnect.Tokio

open Transition
open OpenvpnConnect.Client (Outcome Lifecycle)

-- A step that starts a session or leaves one behind.
def Event.turns {φ η : Type} : Event φ η → Bool
  | .Exchanged _ | .Abandoned _ => true
  | _ => false

section Labels

variable {φ η : Type} [DecidableEq φ] [DecidableEq η] {capabilities : Capabilities} {capacity : Nat}
  {state after : State φ η} {future : φ} {seen : List (Event φ η)}

theorem call_turns {label : Client.Label (Actor φ η)}
    (hs : call capabilities state label = some (after, seen)) : ∀ event ∈ seen, event.turns = false := by
  obtain ⟨core, coreSeen, _, _, rfl⟩ := call_core hs
  intro event hmem
  obtain ⟨coreEvent, _, rfl⟩ := List.mem_map.mp hmem
  rfl

theorem drive_turns {session : Session η} {branch : Branch}
    (hs : drive capabilities state future session branch = some (after, seen)) :
    ∀ event ∈ seen, event.turns = false := by
  unfold drive at hs
  split at hs
  case h_1 | h_2 =>
      split at hs
      · exact call_turns hs
      · cases hs
  case h_3 =>
      split at hs
      · exact call_turns hs
      · cases hs
  case h_4 =>
      split at hs
      · split at hs
        · cases hs; simp
        · split at hs <;> cases hs; simp
      · cases hs
  case h_5 =>
      split at hs
      · cases hs
      · rename_i hcall
        cases hs
        simpa [Event.turns] using call_turns hcall
  all_goals cases hs
  all_goals simp [Event.turns]

theorem cancel_turns {session : Session η} {thread : η}
    (hs : cancel capabilities state future session thread = some (after, seen)) :
    ∀ event ∈ seen, event.turns = false := by
  unfold cancel at hs
  split at hs
  · cases hs
  · rename_i hcall
    cases hs
    simpa [Event.turns] using call_turns hcall

-- Sessions are started by polls and left behind by drops only.
theorem step_turns {label : Label φ η} (hs : step capabilities capacity state label = some (after, seen))
    (hpoll : ∀ future, label ≠ .Poll future) (hdrop : ∀ future, label ≠ .Drop future) :
    ∀ event ∈ seen, event.turns = false := by
  cases label with
  | Poll future => exact absurd rfl (hpoll future)
  | Drop future => exact absurd rfl (hdrop future)
  | Core actor => exact call_turns hs
  | NativeReturn actor result => exact call_turns hs
  | Begin future operation =>
      simp only [step] at hs
      split at hs <;> cases hs
      simp [Event.turns]
  | Lock future =>
      simp only [step] at hs
      split at hs
      · split at hs <;> cases hs <;> simp
      · cases hs
  | RunJob future =>
      simp only [step] at hs
      split at hs
      · exact call_turns hs
      · cases hs
  | RunWorker future =>
      simp only [step] at hs
      split at hs
      · split at hs
        · exact call_turns hs
        · cases hs
      · cases hs
  | Drive future branch =>
      simp only [step] at hs
      split at hs
      · exact drive_turns hs
      · cases hs
  | Cancel future thread =>
      simp only [step] at hs
      split at hs
      · split at hs
        · exact cancel_turns hs
        · cases hs
      · cases hs
  | PollSession future =>
      simp only [step] at hs
      split at hs
      · split at hs <;> cases hs
        simp [Event.turns]
      · cases hs
  | DropSession future thread =>
      simp only [step] at hs
      split at hs
      · split at hs
        · exact cancel_turns hs
        · cases hs; simp
        · cases hs
      · cases hs
  | Send future _ | CloneHandle future | DropHandle future | CancelToken future =>
      simp only [step] at hs
      split at hs
      · split at hs <;> cases hs
        simp [Event.turns]
      · cases hs

omit [DecidableEq η] in
theorem poll_turns (hs : poll state future = some (after, seen)) :
    ∀ event ∈ seen, event.turns = true → event = .Exchanged future := by
  unfold poll at hs
  split at hs
  case h_1 =>
      simp only [ensureIdle, ready] at hs
      split at hs <;> cases hs <;> simp [Event.turns]
  case h_2 =>
      simp only [ensureConnectable, ready] at hs
      split at hs
      · split at hs <;> cases hs <;> simp [Event.turns]
      · cases hs
  case h_3 =>
      simp only [compareExchange, ready] at hs
      split at hs <;> cases hs <;> simp [Event.turns]
  case h_4 => split at hs <;> cases hs; simp [Event.turns]
  case h_5 =>
      split at hs
      · unfold awaitStarted at hs
        split at hs <;> cases hs <;> simp [Event.turns]
      · cases hs
  case h_6 => cases hs

omit [DecidableEq η] in
theorem drop_turns (hs : drop state future = some (after, seen)) :
    ∀ event ∈ seen, event.turns = true → event = .Abandoned future := by
  unfold drop at hs
  split at hs
  case h_4 => split at hs <;> cases hs; simp
  all_goals cases hs
  all_goals simp

-- The label of a step that starts a session, and of one that leaves it behind.
theorem step_label {label : Label φ η} {event : Event φ η}
    (hs : step capabilities capacity state label = some (after, seen)) (hmem : event ∈ seen)
    (hturns : event.turns = true) :
    (∃ future, label = .Poll future ∧ event = .Exchanged future) ∨
      ∃ future, label = .Drop future ∧ event = .Abandoned future := by
  by_cases hpoll : ∃ future, label = .Poll future
  · obtain ⟨future, rfl⟩ := hpoll
    exact .inl ⟨future, rfl, poll_turns hs event hmem hturns⟩
  · by_cases hdrop : ∃ future, label = .Drop future
    · obtain ⟨future, rfl⟩ := hdrop
      exact .inr ⟨future, rfl, drop_turns hs event hmem hturns⟩
    · have hquiet := step_turns hs (fun other he => hpoll ⟨other, he⟩)
        (fun other he => hdrop ⟨other, he⟩) event hmem
      rw [hturns] at hquiet
      cases hquiet

end Labels

end OpenvpnConnect.Tokio
