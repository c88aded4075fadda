import Mathlib.Algebra.Order.Group.Multiset
import Mathlib.Data.Multiset.MapFold
import Mathlib.Data.Multiset.UnionInter
import Mathlib.Data.List.Forall2
import Mathlib.Tactic.ByContra
import Mathlib.Data.Multiset.Count

-- Objects that live as long as something refers to them.
namespace Memory.Counted

variable {β : Type}

structure Cell (β : Type) where
  count : Nat
  value : β
deriving DecidableEq, Repr

-- The objects by their addresses, and none where one has been destroyed. No address is used twice.
abbrev Store (β : Type) := List (Option (Cell β))

-- What values refer to, and which of them carry a counter; the others have a single owner.
structure Layout (β : Type) where
  refs : β → List Nat
  counted : β → Bool

def get (store : Store β) (address : Nat) : Option (Cell β) := store[address]?.join

-- An access to an object that is gone is undefined.
def read (store : Store β) (address : Nat) : Option β := (get store address).map Cell.value

def write (store : Store β) (address : Nat) (value : β) : Option (Store β) :=
  (get store address).map fun cell => store.set address (some { cell with value })

-- A new object, to which its creator refers.
def create (store : Store β) (value : β) : Store β := store ++ [some ⟨1, value⟩]

section Counting

variable (layout : Layout β)

def retain (store : Store β) (address : Nat) : Option (Store β) :=
  match get store address with
  | none => none
  | some cell =>
      if layout.counted cell.value then some (store.set address (some { cell with count := cell.count + 1 }))
      else none

-- All references that the objects have.
def held : Store β → Multiset Nat
  | [] => 0
  | cell :: rest => (cell.elim 0 fun cell => (layout.refs cell.value : Multiset Nat)) + held rest

-- References are given up one after the other, and with the last one of an object those that it has.
def releaseAll : Nat → Store β → List Nat → Option (Store β)
  | _, store, [] => some store
  | 0, _, _ :: _ => none
  | fuel + 1, store, address :: rest =>
      match get store address with
      | none => none
      | some cell =>
          if layout.counted cell.value ∧ cell.count ≠ 1 then
            releaseAll fuel (store.set address (some { cell with count := cell.count - 1 })) rest
          else releaseAll fuel (store.set address none) (layout.refs cell.value ++ rest)

def release (store : Store β) (address : Nat) : Option (Store β) :=
  releaseAll layout ((held layout store).card + 1) store [address]

-- The counts are right for the objects' own references and for those of the roots, and no object refers to a
-- younger one.
structure Counts (store : Store β) (roots : Multiset Nat) : Prop where
  count : ∀ {address cell}, get store address = some cell →
    cell.count = (roots + held layout store).count address ∧ 0 < cell.count
  alive : ∀ {address}, address ∈ roots + held layout store → ∃ cell, get store address = some cell
  sole : ∀ {address cell}, get store address = some cell → layout.counted cell.value = false → cell.count = 1
  older : ∀ {address cell}, get store address = some cell → ∀ other ∈ layout.refs cell.value, other < address

end Counting

-- The first store has nothing that the second one has not.
structure Within (first second : Store β) : Prop where
  length : first.length = second.length
  read : ∀ {address value}, read first address = some value → read second address = some value

theorem Within.refl (store : Store β) : Within store store := ⟨rfl, id⟩

theorem Within.trans {first second third : Store β} (hfirst : Within first second)
    (hsecond : Within second third) : Within first third :=
  ⟨hfirst.length.trans hsecond.length, fun hread => hsecond.read (hfirst.read hread)⟩

section Cells

variable {layout : Layout β} {store : Store β} {address : Nat} {cell : Cell β}

theorem get_lt (hget : get store address = some cell) : address < store.length := by
  by_contra hge
  rw [get, List.getElem?_eq_none (by omega)] at hget
  cases hget

theorem get_set_self (hget : get store address = some cell) (changed : Option (Cell β)) :
    get (store.set address changed) address = changed := by
  rw [get, List.getElem?_set_self (get_lt hget), Option.join_some]

theorem get_set_ne {other : Nat} (hne : address ≠ other) (changed : Option (Cell β)) :
    get (store.set address changed) other = get store other := by
  rw [get, get, List.getElem?_set_ne hne]

theorem read_get (hget : get store address = some cell) : read store address = some cell.value := by
  rw [read, hget, Option.map_some]

theorem get_create (value : β) : get (create store value) store.length = some ⟨1, value⟩ := by
  rw [get, create, List.getElem?_concat_length, Option.join_some]

theorem get_create_ne {other : Nat} (value : β) (hne : other ≠ store.length) :
    get (create store value) other = get store other := by
  by_cases hlt : other < store.length
  · rw [get, get, create, List.getElem?_append_left hlt]
  · have hlength : (create store value).length = store.length + 1 := List.length_append
    rw [get, get, List.getElem?_eq_none (by omega), List.getElem?_eq_none (by omega)]

-- An object that is destroyed gives up its references.
theorem held_none (hget : get store address = some cell) :
    held layout store = (layout.refs cell.value : Multiset Nat) + held layout (store.set address none) := by
  induction store generalizing address with
  | nil => cases hget
  | cons first rest ih =>
      cases address with
      | zero =>
          obtain rfl : first = some cell := by simpa [get] using hget
          rw [List.set_cons_zero, held, held, Option.elim_some, Option.elim_none, zero_add]
      | succ address =>
          have hrest : get rest address = some cell := by simpa [get] using hget
          rw [List.set_cons_succ, held, held, ih hrest, add_left_comm]

-- Nothing but the references of its value is seen of an object.
theorem held_set (hget : get store address = some cell) {other : Cell β}
    (hrefs : layout.refs other.value = layout.refs cell.value) :
    held layout (store.set address (some other)) = held layout store := by
  induction store generalizing address with
  | nil => cases hget
  | cons first rest ih =>
      cases address with
      | zero =>
          obtain rfl : first = some cell := by simpa [get] using hget
          rw [List.set_cons_zero, held, held, Option.elim_some, Option.elim_some, hrefs]
      | succ address =>
          have hrest : get rest address = some cell := by simpa [get] using hget
          rw [List.set_cons_succ, held, held, ih hrest]

theorem held_create (value : β) :
    held layout (create store value) = held layout store + (layout.refs value : Multiset Nat) := by
  induction store with
  | nil =>
      rw [create, List.nil_append, held, held, Option.elim_some]
      exact add_comm _ _
  | cons first rest ih =>
      have hrest : held layout (rest ++ [some ⟨1, value⟩]) =
          held layout rest + (layout.refs value : Multiset Nat) := ih
      rw [create, List.cons_append, held, held, hrest, add_assoc]

end Cells

section Rules

variable {layout : Layout β} {store : Store β} {roots : Multiset Nat} {address : Nat} {cell : Cell β}

theorem counts_empty : Counts layout ([] : Store β) 0 where
  count := fun hget => by cases hget
  alive := fun hmem => by simp [held] at hmem
  sole := fun hget => by cases hget
  older := fun hget => by cases hget

theorem Counts.lt (hcounts : Counts layout store roots) (hmem : address ∈ roots + held layout store) :
    address < store.length := by
  obtain ⟨_, hget⟩ := hcounts.alive hmem
  exact get_lt hget

-- Another count, or another value with the same references, for an object that stays.
theorem Counts.change {others : Multiset Nat} {changed : Cell β} (hcounts : Counts layout store roots)
    (hget : get store address = some cell) (hrefs : layout.refs changed.value = layout.refs cell.value)
    (hcounted : layout.counted changed.value = layout.counted cell.value)
    (hcount : changed.count + roots.count address = cell.count + others.count address) (hpos : 0 < changed.count)
    (hsole : layout.counted cell.value = false → changed.count = 1)
    (hothers : ∀ other, other ≠ address → others.count other = roots.count other) :
    Counts layout (store.set address (some changed)) others := by
  have hheld : held layout (store.set address (some changed)) = held layout store := held_set hget hrefs
  constructor
  · intro other found hfound
    rw [hheld]
    by_cases hsame : address = other
    · subst hsame
      rw [get_set_self hget] at hfound
      obtain rfl := Option.some.inj hfound
      have hbefore := (hcounts.count hget).1
      rw [Multiset.count_add] at hbefore ⊢
      exact ⟨by omega, hpos⟩
    · rw [get_set_ne hsame] at hfound
      have hbefore := hcounts.count hfound
      rwa [Multiset.count_add, ← hothers other (Ne.symm hsame), ← Multiset.count_add] at hbefore
  · intro other hother
    rw [hheld] at hother
    by_cases hsame : address = other
    · subst hsame
      exact ⟨_, get_set_self hget _⟩
    · rw [get_set_ne hsame]
      apply hcounts.alive
      rw [← Multiset.count_pos, Multiset.count_add] at hother ⊢
      rwa [← hothers other (Ne.symm hsame)]
  · intro other found hfound
    by_cases hsame : address = other
    · subst hsame
      rw [get_set_self hget] at hfound
      obtain rfl := Option.some.inj hfound
      rw [hcounted]
      exact hsole
    · rw [get_set_ne hsame] at hfound
      exact hcounts.sole hfound
  · intro other found hfound
    by_cases hsame : address = other
    · subst hsame
      rw [get_set_self hget] at hfound
      obtain rfl := Option.some.inj hfound
      rw [hrefs]
      exact hcounts.older hget
    · rw [get_set_ne hsame] at hfound
      exact hcounts.older hfound

-- A reference that is not the last one is given up.
theorem Counts.decrement (hcounts : Counts layout store ({address} + roots)) (hget : get store address = some cell)
    (hcounted : layout.counted cell.value = true) (hshared : cell.count ≠ 1) :
    Counts layout (store.set address (some { cell with count := cell.count - 1 })) roots := by
  have hpos := (hcounts.count hget).2
  refine hcounts.change hget rfl rfl ?_ ?_ ?_ ?_
  · rw [Multiset.count_add, Multiset.count_singleton_self]
    dsimp only
    omega
  · dsimp only
    omega
  · intro huncounted
    exact absurd (hcounted.symm.trans huncounted) (by decide)
  · intro other hne
    rw [Multiset.count_add, Multiset.count_singleton, if_neg hne, zero_add]

-- With its last reference an object is destroyed, and gives up its own.
theorem Counts.destroy (hcounts : Counts layout store ({address} + roots)) (hget : get store address = some cell)
    (hlast : cell.count = 1) :
    Counts layout (store.set address none) ((layout.refs cell.value : Multiset Nat) + roots) := by
  have hsum : {address} + roots + held layout store =
      {address} + ((layout.refs cell.value : Multiset Nat) + roots + held layout (store.set address none)) := by
    rw [held_none hget]
    ac_rfl
  have hgone : address ∉
      (layout.refs cell.value : Multiset Nat) + roots + held layout (store.set address none) := by
    have hcount := (hcounts.count hget).1
    rw [hsum, Multiset.count_add, Multiset.count_singleton_self, hlast] at hcount
    exact Multiset.count_eq_zero.mp (by omega)
  have hget_ne : ∀ {other found}, get (store.set address none) other = some found → get store other = some found ∧
      other ≠ address := by
    intro other found hfound
    by_cases hsame : address = other
    · subst hsame
      rw [get_set_self hget] at hfound
      cases hfound
    · rw [get_set_ne hsame] at hfound
      exact ⟨hfound, Ne.symm hsame⟩
  constructor
  · intro other found hfound
    obtain ⟨hbefore, hne⟩ := hget_ne hfound
    have hcount := hcounts.count hbefore
    rwa [hsum, Multiset.count_add, Multiset.count_singleton, if_neg hne, zero_add] at hcount
  · intro other hother
    have hne : address ≠ other := fun h => hgone (h ▸ hother)
    rw [get_set_ne hne]
    apply hcounts.alive
    rw [hsum]
    exact Multiset.mem_add.mpr (.inr hother)
  · intro other found hfound
    exact hcounts.sole (hget_ne hfound).1
  · intro other found hfound
    exact hcounts.older (hget_ne hfound).1

theorem within_set {value : β} {count : Nat} (hget : get store address = some cell) (hvalue : cell.value = value) :
    Within (store.set address (some ⟨count, value⟩)) store := by
  refine ⟨List.length_set, ?_⟩
  intro other found hread
  by_cases hsame : address = other
  · subst hsame
    rw [read, get_set_self hget] at hread
    rw [read_get hget, hvalue]
    exact hread
  · rwa [read, get_set_ne hsame] at hread

theorem within_none (hget : get store address = some cell) : Within (store.set address none) store := by
  refine ⟨List.length_set, ?_⟩
  intro other found hread
  by_cases hsame : address = other
  · subst hsame
    rw [read, get_set_self hget] at hread
    cases hread
  · rwa [read, get_set_ne hsame] at hread

-- As many steps are taken as there are references, at most.
theorem releaseAll_counts {fuel : Nat} {pending : List Nat}
    (hcounts : Counts layout store ((pending : Multiset Nat) + roots))
    (hfuel : pending.length + (held layout store).card ≤ fuel) :
    ∃ after, releaseAll layout fuel store pending = some after ∧ Counts layout after roots ∧
      Within after store := by
  induction fuel generalizing store pending with
  | zero =>
      obtain rfl : pending = [] := List.length_eq_zero_iff.mp (by omega)
      rw [Multiset.coe_nil, zero_add] at hcounts
      exact ⟨store, rfl, hcounts, .refl store⟩
  | succ fuel ih =>
      cases pending with
      | nil =>
          rw [Multiset.coe_nil, zero_add] at hcounts
          exact ⟨store, rfl, hcounts, .refl store⟩
      | cons address rest =>
          have hpending : ((address :: rest : List Nat) : Multiset Nat) + roots =
              {address} + ((rest : Multiset Nat) + roots) := by
            rw [← Multiset.cons_coe, ← Multiset.singleton_add, add_assoc]
          rw [hpending] at hcounts
          rw [List.length_cons] at hfuel
          obtain ⟨cell, hget⟩ := hcounts.alive (Multiset.mem_add.mpr (.inl (Multiset.mem_add.mpr
            (.inl (Multiset.mem_singleton_self address)))))
          simp only [releaseAll, hget]
          by_cases hshared : layout.counted cell.value = true ∧ cell.count ≠ 1
          · rw [if_pos hshared]
            have hheld : held layout (store.set address (some { cell with count := cell.count - 1 })) =
                held layout store := held_set hget rfl
            obtain ⟨after, hreleased, hafter, hwithin⟩ := ih (hcounts.decrement hget hshared.1 hshared.2) (by
              rw [hheld]
              omega)
            exact ⟨after, hreleased, hafter, hwithin.trans (within_set hget rfl)⟩
          · rw [if_neg hshared]
            have hlast : cell.count = 1 := by
              by_contra hmore
              cases hcounted : layout.counted cell.value with
              | true => exact hshared ⟨hcounted, hmore⟩
              | false => exact hmore (hcounts.sole hget hcounted)
            have hdestroyed := hcounts.destroy hget hlast
            rw [← add_assoc, Multiset.coe_add] at hdestroyed
            obtain ⟨after, hreleased, hafter, hwithin⟩ := ih hdestroyed (by
              rw [held_none hget, Multiset.card_add, Multiset.coe_card] at hfuel
              rw [List.length_append]
              omega)
            exact ⟨after, hreleased, hafter, hwithin.trans (within_none hget)⟩

theorem Counts.release (hcounts : Counts layout store ({address} + roots)) :
    ∃ after, release layout store address = some after ∧ Counts layout after roots ∧ Within after store := by
  apply releaseAll_counts
  · rwa [Multiset.coe_singleton]
  · rw [List.length_singleton]
    omega

theorem Counts.retain (hcounts : Counts layout store roots) (hget : get store address = some cell)
    (hcounted : layout.counted cell.value = true) :
    ∃ after, retain layout store address = some after ∧ Counts layout after ({address} + roots) ∧
      Within after store := by
  have hpos := (hcounts.count hget).2
  refine ⟨store.set address (some { cell with count := cell.count + 1 }), ?_, ?_, within_set hget rfl⟩
  · simp only [Counted.retain, hget, hcounted, if_true]
  · refine hcounts.change hget rfl rfl ?_ (Nat.succ_pos _) ?_ ?_
    · rw [Multiset.count_add, Multiset.count_singleton_self]
      dsimp only
      omega
    · intro huncounted
      exact absurd (hcounted.symm.trans huncounted) (by decide)
    · intro other hne
      rw [Multiset.count_add, Multiset.count_singleton, if_neg hne, zero_add]

theorem Counts.write {value : β} (hcounts : Counts layout store roots) (hget : get store address = some cell)
    (hrefs : layout.refs value = layout.refs cell.value)
    (hcounted : layout.counted value = layout.counted cell.value) :
    Counts layout (store.set address (some { cell with value })) roots :=
  hcounts.change hget hrefs hcounted rfl (hcounts.count hget).2 (hcounts.sole hget) fun _ _ => rfl

-- A new object takes its references from whoever creates it.
theorem Counts.create {value : β} (hcounts : Counts layout store ((layout.refs value : Multiset Nat) + roots)) :
    Counts layout (create store value) ({store.length} + roots) := by
  have hsum : {store.length} + roots + held layout (Counted.create store value) =
      {store.length} + ((layout.refs value : Multiset Nat) + roots + held layout store) := by
    rw [held_create]
    ac_rfl
  have hfresh : store.length ∉ (layout.refs value : Multiset Nat) + roots + held layout store :=
    fun hmem => Nat.lt_irrefl _ (hcounts.lt hmem)
  constructor
  · intro other found hfound
    rw [hsum, Multiset.count_add]
    by_cases hsame : other = store.length
    · subst hsame
      rw [get_create] at hfound
      obtain rfl := Option.some.inj hfound
      rw [Multiset.count_singleton_self, Multiset.count_eq_zero.mpr hfresh]
      exact ⟨rfl, Nat.one_pos⟩
    · rw [get_create_ne value hsame] at hfound
      rw [Multiset.count_singleton, if_neg hsame, zero_add]
      exact hcounts.count hfound
  · intro other hother
    by_cases hsame : other = store.length
    · subst hsame
      exact ⟨_, get_create value⟩
    · rw [get_create_ne value hsame]
      rw [hsum] at hother
      rcases Multiset.mem_add.mp hother with hnew | hold
      · exact absurd (Multiset.mem_singleton.mp hnew) hsame
      · exact hcounts.alive hold
  · intro other found hfound
    by_cases hsame : other = store.length
    · subst hsame
      rw [get_create] at hfound
      obtain rfl := Option.some.inj hfound
      exact fun _ => rfl
    · rw [get_create_ne value hsame] at hfound
      exact hcounts.sole hfound
  · intro other found hfound
    by_cases hsame : other = store.length
    · subst hsame
      rw [get_create] at hfound
      obtain rfl := Option.some.inj hfound
      intro older holder
      apply hcounts.lt
      rw [add_assoc]
      exact Multiset.mem_add.mpr (.inl holder)
    · rw [get_create_ne value hsame] at hfound
      exact hcounts.older hfound

theorem mem_held (hmem : address ∈ held layout store) :
    ∃ holder cell, get store holder = some cell ∧ address ∈ layout.refs cell.value := by
  induction store with
  | nil => exact absurd hmem (Multiset.notMem_zero address)
  | cons first rest ih =>
      rw [held] at hmem
      rcases Multiset.mem_add.mp hmem with hfirst | hrest
      · cases first with
        | none => exact absurd hfirst (Multiset.notMem_zero address)
        | some cell => exact ⟨0, cell, rfl, hfirst⟩
      · obtain ⟨holder, cell, hget, hrefs⟩ := ih hrest
        exact ⟨holder + 1, cell, by simpa [get] using hget, hrefs⟩

-- What a root leads to.
inductive Reachable (layout : Layout β) (store : Store β) (roots : Multiset Nat) : Nat → Prop
  | Root {address : Nat} (hmem : address ∈ roots) : Reachable layout store roots address
  | Ref {address target : Nat} {cell : Cell β} (hreach : Reachable layout store roots address)
      (hget : get store address = some cell) (hmem : target ∈ layout.refs cell.value) :
      Reachable layout store roots target

theorem mem_held_of_ref {target : Nat} (hget : get store address = some cell)
    (hmem : target ∈ layout.refs cell.value) : target ∈ held layout store := by
  rw [held_none hget]
  exact Multiset.mem_add.mpr (.inl hmem)

theorem Counts.alive_of_reachable (hcounts : Counts layout store roots)
    (hreach : Reachable layout store roots address) : ∃ cell, get store address = some cell := by
  cases hreach with
  | Root hmem => exact hcounts.alive (Multiset.mem_add.mpr (.inl hmem))
  | Ref _ hget hmem => exact hcounts.alive (Multiset.mem_add.mpr (.inr (mem_held_of_ref hget hmem)))

-- By induction on the number of younger objects: an object that no root has is held by a younger one.
theorem Counts.reachable (hcounts : Counts layout store roots) (hget : get store address = some cell) :
    Reachable layout store roots address := by
  have hall : ∀ distance address cell, store.length ≤ address + distance → get store address = some cell →
      Reachable layout store roots address := by
    intro distance
    induction distance with
    | zero =>
        intro address cell hend hget
        have hlt := get_lt hget
        omega
    | succ distance ih =>
        intro address cell hend hget
        obtain ⟨hcount, hpos⟩ := hcounts.count hget
        have hmem : address ∈ roots + held layout store := by
          rw [← Multiset.count_pos]
          omega
        rcases Multiset.mem_add.mp hmem with hroot | hheld
        · exact .Root hroot
        · obtain ⟨holder, other, hholder, hrefs⟩ := mem_held hheld
          have hyounger := hcounts.older hholder address hrefs
          exact .Ref (ih holder other (by omega) hholder) hholder hrefs
  exact hall store.length address cell (by omega) hget

-- No object is lost, and none is used that is gone.
theorem Counts.alive_iff_reachable (hcounts : Counts layout store roots) :
    (∃ cell, get store address = some cell) ↔ Reachable layout store roots address :=
  ⟨fun ⟨_, hget⟩ => hcounts.reachable hget, hcounts.alive_of_reachable⟩

end Rules

section Keeping

variable {layout : Layout β} {first second after : Store β} {address : Nat} {value : β}

theorem read_eq_some :
    read first address = some value ↔ ∃ cell, get first address = some cell ∧ cell.value = value :=
  Option.map_eq_some_iff

theorem Within.get (hwithin : Within first second) {cell : Cell β} (hget : get first address = some cell) :
    ∃ other, Counted.get second address = some other ∧ other.value = cell.value :=
  read_eq_some.mp (hwithin.read (read_get hget))

theorem Within.set (hwithin : Within first second) {cell other : Cell β}
    (hfirst : Counted.get first address = some cell) (hsecond : Counted.get second address = some other)
    (count more : Nat) (value : β) :
    Within (first.set address (some ⟨count, value⟩)) (second.set address (some ⟨more, value⟩)) := by
  refine ⟨by rw [List.length_set, List.length_set, hwithin.length], ?_⟩
  intro target found hread
  by_cases hsame : address = target
  · subst hsame
    rw [Counted.read, get_set_self hfirst] at hread
    rw [Counted.read, get_set_self hsecond]
    exact hread
  · rw [Counted.read, get_set_ne hsame] at hread
    rw [Counted.read, get_set_ne hsame]
    exact hwithin.read hread

theorem Within.retain (hwithin : Within first second) (hretain : retain layout first address = some after) :
    ∃ kept, Counted.retain layout second address = some kept ∧ Within after kept := by
  unfold Counted.retain at hretain
  cases hget : Counted.get first address with
  | none =>
      rw [hget] at hretain
      cases hretain
  | some cell =>
      obtain ⟨other, hother, hvalue⟩ := hwithin.get hget
      rw [hget] at hretain
      by_cases hcounted : layout.counted cell.value = true
      · simp only [hcounted, if_true] at hretain
        obtain rfl := Option.some.inj hretain
        refine ⟨_, ?_, hwithin.set hget hother (cell.count + 1) (other.count + 1) cell.value⟩
        simp only [Counted.retain, hother, hvalue, hcounted, if_true]
      · simp only [hcounted] at hretain
        cases hretain

theorem Within.write (hwithin : Within first second) (hwrite : write first address value = some after) :
    ∃ kept, Counted.write second address value = some kept ∧ Within after kept := by
  obtain ⟨cell, hget, rfl⟩ := Option.map_eq_some_iff.mp hwrite
  obtain ⟨other, hother, _⟩ := hwithin.get hget
  refine ⟨_, ?_, hwithin.set hget hother cell.count other.count value⟩
  rw [Counted.write, hother, Option.map_some]

theorem read_write (hwrite : write first address value = some after) (target : Nat) :
    read after target = if target = address then some value else read first target := by
  obtain ⟨cell, hget, rfl⟩ := Option.map_eq_some_iff.mp hwrite
  by_cases hsame : target = address
  · subst hsame
    rw [if_pos rfl, read, get_set_self hget, Option.map_some]
  · rw [if_neg hsame, read, get_set_ne (Ne.symm hsame), read]

theorem read_create (store : Store β) (value : β) (target : Nat) : read (create store value) target =
    if target = store.length then some value else read store target := by
  by_cases hsame : target = store.length
  · rw [if_pos hsame, hsame, read_get (get_create value)]
  · rw [if_neg hsame, read, get_create_ne value hsame, read]

theorem Within.create (hwithin : Within first second) (value : β) :
    Within (create first value) (create second value) := by
  refine ⟨by rw [Counted.create, Counted.create, List.length_append, List.length_append, hwithin.length], ?_⟩
  intro target found hread
  rw [read_create, ← hwithin.length]
  rw [read_create] at hread
  by_cases hsame : target = first.length
  · rwa [if_pos hsame] at hread ⊢
  · rw [if_neg hsame] at hread ⊢
    exact hwithin.read hread

end Keeping

section Variables

-- The references that variables have.
def roots (vars : List (Option Nat)) : Multiset Nat := (vars.filterMap id : List Nat)

theorem mem_roots {vars : List (Option Nat)} {address : Nat} :
    address ∈ roots vars ↔ ∃ var : Nat, vars[var]?.join = some address := by
  have hfilter : address ∈ roots vars ↔ some address ∈ vars := by simp [roots]
  rw [hfilter, List.mem_iff_getElem?]
  simp only [Option.join_eq_some_iff]

theorem roots_concat (vars : List (Option Nat)) (address : Nat) :
    roots (vars ++ [some address]) = {address} + roots vars := by
  simp only [roots, List.filterMap_append, List.filterMap_cons, List.filterMap_nil, id]
  rw [← Multiset.coe_add, add_comm, Multiset.coe_singleton]

theorem roots_set {vars : List (Option Nat)} {var address : Nat} (hvar : vars[var]?.join = some address) :
    roots vars = {address} + roots (vars.set var none) := by
  induction vars generalizing var with
  | nil => cases hvar
  | cons first rest ih =>
      cases var with
      | zero =>
          obtain rfl : first = some address := by simpa using hvar
          simp only [roots, List.set_cons_zero, List.filterMap_cons, id]
          rw [← Multiset.cons_coe, Multiset.singleton_add]
      | succ var =>
          have hrest := ih (by simpa using hvar)
          cases first with
          | none => exact hrest
          | some other =>
              simp only [roots, List.set_cons_succ, List.filterMap_cons, id, ← Multiset.cons_coe] at hrest ⊢
              rw [hrest, Multiset.add_cons]

end Variables

end Memory.Counted
