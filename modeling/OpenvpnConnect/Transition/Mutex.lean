import Mathlib.Logic.Basic

namespace Transition

inductive Discipline
  | Plain
  | Recursive
deriving DecidableEq, Repr

-- A held mutex has been locked `again` times more by its owner, so a mutex
-- with an owner that has not locked it cannot be written down.
inductive Mutex (τ : Type)
  | Free
  | Held (owner : τ) (again : Nat)
deriving DecidableEq, Repr

section Mutex

variable {τ : Type} [DecidableEq τ]

def Mutex.lock (discipline : Discipline) (thread : τ) : Mutex τ → Option (Mutex τ)
  | .Free => some (.Held thread 0)
  | .Held owner again =>
      if owner = thread ∧ discipline = .Recursive then some (.Held owner (again + 1)) else none

def Mutex.unlock (thread : τ) : Mutex τ → Option (Mutex τ)
  | .Free => none
  | .Held owner 0 => if owner = thread then some .Free else none
  | .Held owner (again + 1) => if owner = thread then some (.Held owner again) else none

-- How many locks of the thread are not undone yet.
def Mutex.count (thread : τ) : Mutex τ → Nat
  | .Free => 0
  | .Held owner again => if owner = thread then again + 1 else 0

@[simp] theorem Mutex.count_free (thread : τ) : (Mutex.Free : Mutex τ).count thread = 0 := rfl

@[simp] theorem Mutex.count_held_pos (thread owner : τ) (again : Nat) :
    0 < (Mutex.Held owner again).count thread ↔ owner = thread := by
  by_cases he : owner = thread
  · simp [count, he]
  · simp [count, he]

theorem Mutex.count_lock {discipline : Discipline} {thread : τ} {mutex next : Mutex τ}
    (hl : mutex.lock discipline thread = some next) (other : τ) :
    next.count other = mutex.count other + if thread = other then 1 else 0 := by
  cases mutex with
  | Free =>
      obtain rfl := Option.some.inj hl
      simp [count]
  | Held owner again =>
      obtain ⟨⟨rfl, -⟩, hnext⟩ := Option.ite_none_right_eq_some.mp hl
      obtain rfl := Option.some.inj hnext
      by_cases he : owner = other
      · simp [count, he]
      · simp [count, he]

theorem Mutex.count_unlock {thread : τ} {mutex next : Mutex τ}
    (hu : mutex.unlock thread = some next) (other : τ) :
    mutex.count other = next.count other + if thread = other then 1 else 0 := by
  match mutex with
  | .Free => cases hu
  | .Held owner 0 | .Held owner (again + 1) =>
      obtain ⟨rfl, hnext⟩ := Option.ite_none_right_eq_some.mp hu
      obtain rfl := Option.some.inj hnext
      by_cases he : owner = other
      · simp [count, he]
      · simp [count, he]

theorem Mutex.unlock_of_count {thread : τ} {mutex : Mutex τ} (hc : 0 < mutex.count thread) :
    ∃ next, mutex.unlock thread = some next := by
  match mutex with
  | .Free => simp at hc
  | .Held owner 0 | .Held owner (again + 1) =>
      obtain rfl := (count_held_pos thread owner _).mp hc
      simp [unlock]

theorem Mutex.relock {thread : τ} {mutex : Mutex τ} (hc : 0 < mutex.count thread) :
    ∃ next, mutex.lock .Recursive thread = some next := by
  cases mutex with
  | Free => simp at hc
  | Held owner again =>
      obtain rfl := (count_held_pos thread owner again).mp hc
      simp [lock]

-- A locked mutex is to be had for its owner only.
theorem Mutex.eq_of_lock {discipline : Discipline} {thread owner : τ} {mutex next : Mutex τ}
    (hl : mutex.lock discipline thread = some next) (hc : 0 < mutex.count owner) : owner = thread := by
  cases mutex with
  | Free => simp at hc
  | Held other again =>
      obtain ⟨⟨rfl, -⟩, -⟩ := Option.ite_none_right_eq_some.mp hl
      exact ((count_held_pos owner other again).mp hc).symm

end Mutex

end Transition
