-- Member functions that may throw, and what they leave of their object when they do.
namespace Throwing

variable {ε σ τ α β : Type}

-- The object is there after an exception as it is after a return.
def Member (ε σ α : Type) : Type := σ → Except ε α × σ

instance : Monad (Member ε σ) where
  pure value := fun object => (.ok value, object)
  bind first next := fun object =>
    match first object with
    | (.ok value, after) => next value after
    | (.error thrown, after) => (.error thrown, after)

def raise (thrown : ε) : Member ε σ α := fun object => (.error thrown, object)

def look : Member ε σ σ := fun object => (.ok object, object)

def update (change : σ → σ) : Member ε σ Unit := fun object => (.ok (), change object)

-- A function that has nothing to do with the object.
def call (result : Except ε α) : Member ε σ α := fun object => (result, object)

-- An `if` without an `else`.
def whenever (condition : Prop) [Decidable condition] (member : Member ε σ Unit) : Member ε σ Unit :=
  if condition then member else pure ()

-- A function of a part of the object.
def part (get : σ → τ) (put : τ → σ → σ) (member : Member ε τ α) : Member ε σ α := fun object =>
  match member (get object) with
  | (result, after) => (result, put after object)

def Returns (member : Member ε σ α) (before : σ) (value : α) (after : σ) : Prop :=
  member before = (.ok value, after)

section Rules

variable {before after : σ}

theorem returns_pure {value result : α} :
    Returns (pure value : Member ε σ α) before result after ↔ value = result ∧ before = after := by
  show ((Except.ok value, before) : Except ε α × σ) = _ ↔ _
  rw [Prod.mk.injEq, Except.ok.injEq]

theorem returns_bind {first : Member ε σ α} {next : α → Member ε σ β} {result : β} :
    Returns (first >>= next) before result after ↔
      ∃ value between, Returns first before value between ∧ Returns (next value) between result after := by
  unfold Returns
  show (match first before with
    | (.ok value, after) => next value after
    | (.error thrown, after) => (.error thrown, after)) = _ ↔ _
  match hfirst : first before with
  | (.ok value, between) =>
      constructor
      · intro hnext
        exact ⟨value, between, rfl, hnext⟩
      · rintro ⟨_, _, heq, hnext⟩
        obtain ⟨rfl, rfl⟩ : value = _ ∧ between = _ := by simpa using heq
        exact hnext
  | (.error thrown, between) =>
      constructor
      · intro herror
        cases herror
      · rintro ⟨_, _, heq, _⟩
        cases heq

theorem returns_raise {thrown : ε} {result : α} : ¬Returns (raise thrown : Member ε σ α) before result after := by
  intro herror
  cases herror

theorem returns_look {result : σ} :
    Returns (look : Member ε σ σ) before result after ↔ before = result ∧ before = after := by
  show ((Except.ok before, before) : Except ε σ × σ) = _ ↔ _
  rw [Prod.mk.injEq, Except.ok.injEq]

theorem returns_update {change : σ → σ} {result : Unit} :
    Returns (update change : Member ε σ Unit) before result after ↔ change before = after := by
  show ((Except.ok (), change before) : Except ε Unit × σ) = _ ↔ _
  rw [Prod.mk.injEq]
  exact ⟨And.right, fun hafter => ⟨rfl, hafter⟩⟩

theorem returns_call {result : Except ε α} {value : α} :
    Returns (call result : Member ε σ α) before value after ↔ result = .ok value ∧ before = after := by
  show ((result, before) : Except ε α × σ) = _ ↔ _
  rw [Prod.mk.injEq]

theorem returns_part {get : σ → τ} {put : τ → σ → σ} {member : Member ε τ α} {value : α} :
    Returns (part get put member) before value after ↔
      ∃ changed, Returns member (get before) value changed ∧ put changed before = after := by
  unfold Returns part
  match member (get before) with
  | (result, changed) =>
      constructor
      · intro heq
        obtain ⟨rfl, rfl⟩ : result = .ok value ∧ put changed before = after := by simpa using heq
        exact ⟨changed, rfl, rfl⟩
      · rintro ⟨_, heq, rfl⟩
        obtain ⟨rfl, rfl⟩ : result = .ok value ∧ changed = _ := by simpa using heq
        rfl

theorem returns_ite {condition : Prop} [Decidable condition] {first second : Member ε σ α} {value : α} :
    Returns (if condition then first else second) before value after ↔
      if condition then Returns first before value after else Returns second before value after := by
  by_cases hcondition : condition
  · rw [if_pos hcondition, if_pos hcondition]
  · rw [if_neg hcondition, if_neg hcondition]

theorem returns_whenever {condition : Prop} [Decidable condition] {member : Member ε σ Unit} {result : Unit} :
    Returns (whenever condition member) before result after ↔
      if condition then Returns member before () after else before = after := by
  rw [whenever, returns_ite]
  by_cases hcondition : condition
  · rw [if_pos hcondition, if_pos hcondition]
  · rw [if_neg hcondition, if_neg hcondition, returns_pure]
    exact ⟨And.right, fun hafter => ⟨rfl, hafter⟩⟩

end Rules

end Throwing
