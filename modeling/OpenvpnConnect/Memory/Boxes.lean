import OpenvpnConnect.Memory.Heap

-- Handles: pointers to boxes with a value of one type in them, or null.
namespace Memory

variable {β τ α γ : Type}

-- How the values of a type lie in blocks.
structure Boxed (β τ : Type) where
  pack : τ → β
  unpack : β → Option τ
  unpack_pack : ∀ value, unpack (pack value) = some value

namespace Boxed

variable (boxed : Boxed β τ)

-- A box for a value, and null where there is no value.
def box : Option τ → Program β (Option Nat)
  | none => pure none
  | some value => do
      let place ← allocate (boxed.pack value)
      return some place

-- A block of another type has no reading.
def get (place : Nat) : Program β τ := do
  let block ← load place
  StateT.lift (boxed.unpack block)

def access (place : Nat) (operation : τ → α × τ) : Program β α := do
  let value ← boxed.get place
  store place (boxed.pack (operation value).2)
  return (operation value).1

def release : Option Nat → Program β Unit
  | none => pure ()
  | some place => do
      let _ ← boxed.get place
      free (some place)

-- An operation on a handle that may be null.
def onHandle (handle : Option Nat) (otherwise : α) (operation : τ → α × τ) : Program β α :=
  match handle with
  | none => pure otherwise
  | some place => boxed.access place operation

-- The value that a handle stands for, and the box that it owns.
inductive Held : Option τ → Option Nat → Cells β → Prop
  | Null : Held none none 0
  | Box (value : τ) (place : Nat) : Held (some value) (some place) {(place, boxed.pack value)}

variable {boxed} {grants : Nat → Bool}

theorem Held.addresses_eq {value : Option τ} {handle : Option Nat} {cells : Cells β}
    (hheld : boxed.Held value handle cells) : addresses cells = ↑handle.toList := by
  cases hheld <;> rfl

theorem Held.isNone_eq {value : Option τ} {handle : Option Nat} {cells : Cells β}
    (hheld : boxed.Held value handle cells) : handle.isNone = value.isNone := by
  cases hheld <;> rfl

theorem box_triple (value : Option τ) : Triple grants 0 (boxed.box value) (boxed.Held value) := by
  cases value with
  | none => exact Triple.pure none .Null
  | some value =>
      apply (allocate_triple (boxed.pack value)).bind
      rintro place _ rfl
      exact Triple.pure (some place) (.Box value place)

theorem get_triple (value : τ) (place : Nat) :
    Triple grants {(place, boxed.pack value)} (boxed.get place) fun result cells =>
      result = value ∧ cells = {(place, boxed.pack value)} := by
  apply (load_triple place (boxed.pack value)).bind
  rintro _ _ ⟨rfl, rfl⟩
  rw [boxed.unpack_pack]
  exact Triple.pure value ⟨rfl, rfl⟩

theorem access_triple (value : τ) (place : Nat) (operation : τ → α × τ) :
    Triple grants {(place, boxed.pack value)} (boxed.access place operation) fun result cells =>
      result = (operation value).1 ∧ boxed.Held (some (operation value).2) (some place) cells := by
  apply (get_triple value place).bind
  rintro _ _ ⟨rfl, rfl⟩
  apply (store_triple place _ _).bind
  rintro _ _ rfl
  exact Triple.pure _ ⟨rfl, .Box _ place⟩

theorem Held.onHandle {value : Option τ} {handle : Option Nat} {cells : Cells β}
    (hheld : boxed.Held value handle cells) (otherwise : α) (operation : τ → α × τ) :
    Triple grants cells (boxed.onHandle handle otherwise operation) fun result after =>
      result = value.elim otherwise (fun value => (operation value).1) ∧
        boxed.Held (value.map fun value => (operation value).2) handle after := by
  cases hheld with
  | Null => exact Triple.pure otherwise ⟨rfl, .Null⟩
  | Box value place => exact access_triple value place operation

theorem Held.release {value : Option τ} {handle : Option Nat} {cells : Cells β}
    (hheld : boxed.Held value handle cells) :
    Triple grants cells (boxed.release handle) fun _ after => after = 0 := by
  cases hheld with
  | Null => exact Triple.pure () rfl
  | Box value place =>
      apply (get_triple value place).bind
      rintro _ _ ⟨rfl, rfl⟩
      exact free_triple place _

end Boxed

section Lists

variable {grants : Nat → Bool} {rel : α → γ → Cells β → Prop}

-- What one of the values owns, and what becomes of the lists when it changes.
theorem Each.focus {values : List α} {others : List γ} {cells : Cells β} (heach : Each rel values others cells)
    {index : Nat} {value : α} (hvalue : values[index]? = some value) :
    ∃ other own rest, others[index]? = some other ∧ rel value other own ∧ cells = own + rest ∧
      ∀ value' other' own', rel value' other' own' →
        Each rel (values.set index value') (others.set index other') (own' + rest) := by
  induction heach generalizing index with
  | Nil => cases hvalue
  | @Cons first second values others own rest hfirst hrest ih =>
      cases index with
      | zero =>
          obtain rfl : first = value := Option.some.inj hvalue
          exact ⟨second, own, rest, rfl, hfirst, rfl, fun _ _ _ hrel => .Cons hrel hrest⟩
      | succ index =>
          obtain ⟨other, mine, more, hother, hrel, rfl, hset⟩ := ih hvalue
          refine ⟨other, mine, own + more, hother, hrel, add_left_comm _ _ _, ?_⟩
          intro value' other' own' hrel'
          rw [add_left_comm]
          exact .Cons hfirst (hset value' other' own' hrel')

theorem Each.getElem?_eq_none {values : List α} {others : List γ} {cells : Cells β}
    (heach : Each rel values others cells) {index : Nat} (hnone : values[index]? = none) :
    others[index]? = none := by
  rw [List.getElem?_eq_none_iff] at hnone ⊢
  rw [← heach.length_eq]
  exact hnone

end Lists

end Memory
