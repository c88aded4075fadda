import Mathlib.Algebra.GroupWithZero.Nat

namespace Transition

-- A machine moves on a label. The label carries every choice of the step,
-- the step reports what an observer sees of it.
structure Machine (σ lab obs : Type) where
  step : σ → lab → Option (σ × List obs)

variable {σ lab obs : Type}

-- The runs from `start` all of whose steps meet the guard, with everything
-- observed on the way. The guard sees the trace and the state before the step.
inductive Run (machine : Machine σ lab obs) (guard : List obs → σ → lab → Prop) (start : σ) :
    List obs → σ → Prop
  | Start : Run machine guard start [] start
  | Step {trace seen : List obs} {before after : σ} {label : lab} :
      Run machine guard start trace before → guard trace before label →
      machine.step before label = some (after, seen) →
      Run machine guard start (trace ++ seen) after

-- The guard of an unrestricted run.
def Unguarded (_ : List obs) (_ : σ) (_ : lab) : Prop := True

instance (trace : List obs) (state : σ) (label : lab) : Decidable (Unguarded trace state label) :=
  isTrue trivial

def Reaches (machine : Machine σ lab obs) (start : σ) (trace : List obs) (last : σ) : Prop :=
  Run machine Unguarded start trace last

section Rules

variable {machine : Machine σ lab obs} {guard : List obs → σ → lab → Prop} {start last : σ}
  {trace : List obs}

-- The induction over a run: one step at a time, at the end of the run.
theorem Run.invariant (inv : List obs → σ → Prop) (hstart : inv [] start)
    (hstep : ∀ trace before label after seen, inv trace before →
      guard trace before label →
      machine.step before label = some (after, seen) → inv (trace ++ seen) after)
    (hrun : Run machine guard start trace last) : inv trace last := by
  induction hrun with
  | Start => exact hstart
  | Step _ hguard hs ih => exact hstep _ _ _ _ _ ih hguard hs

-- A second invariant may use a first one that is already known of the run.
theorem Run.invariant_with (known inv : List obs → σ → Prop)
    (hknown : ∀ trace last, Run machine guard start trace last → known trace last)
    (hstart : inv [] start)
    (hstep : ∀ trace before label after seen, known trace before → inv trace before →
      guard trace before label → machine.step before label = some (after, seen) →
      inv (trace ++ seen) after)
    (hrun : Run machine guard start trace last) : inv trace last := by
  induction hrun with
  | Start => exact hstart
  | Step hrun hguard hs ih => exact hstep _ _ _ _ _ (hknown _ _ hrun) ih hguard hs

theorem Run.weaken {weaker : List obs → σ → lab → Prop}
    (hle : ∀ trace state label, guard trace state label → weaker trace state label)
    (hrun : Run machine guard start trace last) : Run machine weaker start trace last := by
  induction hrun with
  | Start => exact .Start
  | Step _ hguard hs ih => exact .Step ih (hle _ _ _ hguard) hs

theorem Run.reaches (hrun : Run machine guard start trace last) : Reaches machine start trace last :=
  hrun.weaken fun _ _ _ _ => trivial

theorem Reaches.trans {middle : σ} {front back : List obs} (hfront : Reaches machine start front middle)
    (hback : Reaches machine middle back last) : Reaches machine start (front ++ back) last := by
  induction hback with
  | Start =>
      rw [List.append_nil]
      exact hfront
  | Step _ _ hs ih =>
      rw [← List.append_assoc]
      exact .Step ih trivial hs

theorem Reaches.one {label : lab} (hs : machine.step start label = some (last, trace)) :
    Reaches machine start trace last := by
  have hrun : Reaches machine start ([] ++ trace) last := .Step .Start trivial hs
  exact hrun

-- A relation between two states that every step keeps relates the ends of a run.
theorem Run.relation (rel : σ → σ → Prop) (hrefl : ∀ state, rel state state)
    (htrans : ∀ first second third, rel first second → rel second third → rel first third)
    (hstep : ∀ before label after seen, machine.step before label = some (after, seen) →
      rel before after)
    (hrun : Run machine guard start trace last) : rel start last := by
  induction hrun with
  | Start => exact hrefl _
  | Step _ _ hs ih => exact htrans _ _ _ ih (hstep _ _ _ _ hs)

end Rules

section Refinement

variable {τ lab' obs' : Type}

-- From related states every step of the concrete machine is a step of the
-- abstract one, or leaves the abstract state alone and shows nothing.
def Refines (concrete : Machine τ lab' obs') (abstract : Machine σ lab obs)
    (rel : τ → σ → Prop) (view : obs' → Option obs) : Prop :=
  ∀ before spec label after seen, rel before spec →
    concrete.step before label = some (after, seen) →
    (rel after spec ∧ seen.filterMap view = []) ∨
    ∃ move next, abstract.step spec move = some (next, seen.filterMap view) ∧ rel after next

theorem Refines.reaches {concrete : Machine τ lab' obs'} {abstract : Machine σ lab obs}
    {rel : τ → σ → Prop} {view : obs' → Option obs} (href : Refines concrete abstract rel view)
    {guard : List obs' → τ → lab' → Prop} {start last : τ} {spec : σ} {trace : List obs'}
    (hrel : rel start spec) (hrun : Run concrete guard start trace last) :
    ∃ final, Reaches abstract spec (trace.filterMap view) final ∧ rel last final := by
  induction hrun with
  | Start => exact ⟨spec, .Start, hrel⟩
  | Step _ _ hs ih =>
      obtain ⟨middle, hmiddle, hbefore⟩ := ih
      rw [List.filterMap_append]
      rcases href _ _ _ _ _ hbefore hs with ⟨hafter, hquiet⟩ | ⟨move, next, hmove, hafter⟩
      · rw [hquiet, List.append_nil]
        exact ⟨middle, hmiddle, hafter⟩
      · exact ⟨next, .Step hmiddle trivial hmove, hafter⟩

end Refinement

section Execution

variable (machine : Machine σ lab obs) (guard : List obs → σ → lab → Prop)
  [∀ trace state label, Decidable (guard trace state label)]

-- Runs a list of labels after what has been observed, and stops at a label
-- that is not enabled or that the guard refuses.
def exec : List obs → σ → List lab → Option (List obs × σ)
  | trace, state, [] => some (trace, state)
  | trace, state, label :: rest =>
      if guard trace state label then
        match machine.step state label with
        | none => none
        | some (next, seen) => exec (trace ++ seen) next rest
      else none

variable {machine guard}

theorem run_exec {start state last : σ} {front trace : List obs} {labels : List lab}
    (hrun : Run machine guard start front state)
    (he : exec machine guard front state labels = some (trace, last)) :
    Run machine guard start trace last := by
  induction labels generalizing front state with
  | nil =>
      obtain ⟨rfl, rfl⟩ : front = trace ∧ state = last := by simpa [exec] using he
      exact hrun
  | cons label rest ih =>
      simp only [exec] at he
      split at he
      · rename_i hguard
        split at he
        · cases he
        · rename_i next seen hs
          exact ih (.Step hrun hguard hs) he
      · cases he

-- A concrete run is given by its labels, its end is computed.
theorem exists_run {start : σ} (labels : List lab) {property : List obs → σ → Prop}
    [∀ trace last, Decidable (property trace last)]
    (he : (exec machine guard [] start labels).any fun last => decide (property last.1 last.2)) :
    ∃ trace last, Run machine guard start trace last ∧ property trace last := by
  cases hlast : exec machine guard [] start labels with
  | none => simp [hlast] at he
  | some last => exact ⟨last.1, last.2, run_exec .Start hlast, by simpa [hlast] using he⟩

end Execution

section Numbers

-- The threads of a fixed run are numbered; these are the same in all the modules.
instance neZeroOne : NeZero 1 := ⟨Nat.one_ne_zero⟩

instance neZeroTwo : NeZero 2 := ⟨Nat.succ_ne_zero 1⟩

instance neZeroThree : NeZero 3 := ⟨Nat.succ_ne_zero 2⟩

end Numbers

end Transition
