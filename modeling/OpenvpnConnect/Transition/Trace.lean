import Mathlib.Data.List.Basic

namespace Transition

variable {obs : Type}

-- What holds of every observation of a trace, given what was observed before it.
def Always (rule : List obs → obs → Prop) (trace : List obs) : Prop :=
  ∀ front seen back, trace = front ++ seen :: back → rule front seen

-- The same for the observations that are added to a known front.
def AlwaysFrom (rule : List obs → obs → Prop) : List obs → List obs → Prop
  | _, [] => True
  | front, seen :: rest => rule front seen ∧ AlwaysFrom rule (front ++ [seen]) rest

@[simp] theorem always_nil (rule : List obs → obs → Prop) : Always rule [] := by
  intro front seen back he
  simp at he

@[simp] theorem alwaysFrom_nil (rule : List obs → obs → Prop) (front : List obs) :
    AlwaysFrom rule front [] := trivial

@[simp] theorem alwaysFrom_cons (rule : List obs → obs → Prop) (front rest : List obs) (seen : obs) :
    AlwaysFrom rule front (seen :: rest) ↔
      rule front seen ∧ AlwaysFrom rule (front ++ [seen]) rest := Iff.rfl

theorem always_append_singleton (rule : List obs → obs → Prop) (front : List obs) (last : obs) :
    Always rule (front ++ [last]) ↔ Always rule front ∧ rule front last := by
  constructor
  · intro h
    exact ⟨fun left seen right he => h left seen (right ++ [last]) (by simp [he]),
      h front last [] rfl⟩
  · rintro ⟨hfront, hlast⟩ left seen right he
    rcases List.eq_nil_or_concat right with rfl | ⟨middle, final, rfl⟩
    · obtain ⟨rfl, hs⟩ := List.append_inj' he rfl
      obtain rfl : last = seen := by simpa using hs
      exact hlast
    · have hsplit : front ++ [last] = (left ++ seen :: middle) ++ [final] := by simpa using he
      exact hfront left seen middle (List.append_inj' hsplit rfl).1

theorem always_append (rule : List obs → obs → Prop) (front back : List obs) :
    Always rule (front ++ back) ↔ Always rule front ∧ AlwaysFrom rule front back := by
  induction back generalizing front with
  | nil => simp
  | cons seen rest ih =>
      have hsplit : front ++ seen :: rest = (front ++ [seen]) ++ rest := by simp
      rw [hsplit, ih, always_append_singleton, alwaysFrom_cons, and_assoc]

theorem alwaysFrom_of_split {rule : List obs → obs → Prop} {front back : List obs}
    (h : ∀ before seen after, back = before ++ seen :: after → rule (front ++ before) seen) :
    AlwaysFrom rule front back := by
  induction back generalizing front with
  | nil => trivial
  | cons seen rest ih =>
      refine ⟨by simpa using h [] seen rest rfl, ih ?_⟩
      intro before other after he
      simpa using h (seen :: before) other after (by simp [he])

theorem Always.append {rule : List obs → obs → Prop} {front back : List obs}
    (hfront : Always rule front) (hback : AlwaysFrom rule front back) : Always rule (front ++ back) :=
  (always_append rule front back).mpr ⟨hfront, hback⟩

theorem Always.imp {rule weaker : List obs → obs → Prop} {trace : List obs}
    (hle : ∀ front seen, rule front seen → weaker front seen) (h : Always rule trace) :
    Always weaker trace :=
  fun front seen back he => hle front seen (h front seen back he)

-- An observation of a longer trace is an old one or one of the new ones.
theorem split_append {front back trace seen : List obs} {event : obs}
    (he : trace ++ seen = front ++ event :: back) :
    (∃ rest, trace = front ++ event :: rest ∧ back = rest ++ seen) ∨
      ∃ before, seen = before ++ event :: back ∧ front = trace ++ before := by
  rcases List.append_eq_append_iff.mp he with ⟨more, hfront, hseen⟩ | ⟨more, htrace, hback⟩
  · exact .inr ⟨more, hseen, hfront⟩
  · cases more with
    | nil => exact .inr ⟨[], by simpa using hback.symm, by simpa using htrace.symm⟩
    | cons first rest =>
        obtain ⟨rfl, rfl⟩ := List.cons.inj hback
        exact .inl ⟨rest, htrace, rfl⟩

theorem filterMap_cons_toList {seen : Type} (view : obs → Option seen) (event : obs) (rest : List obs) :
    (event :: rest).filterMap view = (view event).toList ++ rest.filterMap view := by
  cases he : view event with
  | none => rw [List.filterMap_cons_none he]; rfl
  | some visible => rw [List.filterMap_cons_some he]; rfl

-- A rule of what is visible of a trace is a rule of the trace.
theorem Always.of_filterMap {seen : Type} {view : obs → Option seen}
    {rule : List seen → seen → Prop} {trace : List obs} (h : Always rule (trace.filterMap view)) :
    Always (fun front last => ∀ visible, view last = some visible →
      rule (front.filterMap view) visible) trace := by
  intro front last back he visible hv
  exact h (front.filterMap view) visible (back.filterMap view) (by simp [he, hv])

end Transition
