import Mathlib.Algebra.Order.Group.Multiset
import Mathlib.Data.Multiset.MapFold
import Mathlib.Data.Multiset.UnionInter
import Mathlib.Data.List.Forall2
import Mathlib.Tactic.ByContra

-- Programs that allocate, read, write and free blocks, and what they own of the heap.
namespace Memory

variable {β α γ : Type}

-- The blocks that are live, by address. An address is given out once; `grants`
-- tells which of the calls of malloc to come find room.
structure Heap (β : Type) where
  blocks : Nat → Option β
  next : Nat
  grants : Nat → Bool
  fresh : ∀ address, next ≤ address → blocks address = none

def Heap.empty (grants : Nat → Bool) : Heap β := ⟨fun _ => none, 0, grants, fun _ _ => rfl⟩

-- No result is undefined behaviour: an access to a block that is not live.
abbrev Program (β α : Type) := StateT (Heap β) Option α

theorem Heap.lt_next {heap : Heap β} {address : Nat} {block : β} (hlive : heap.blocks address = some block) :
    address < heap.next := by
  by_contra hle
  have hnone := heap.fresh address (by omega)
  rw [hlive] at hnone
  cases hnone

def Heap.write (heap : Heap β) (address : Nat) (block : Option β) (hbound : address < heap.next) : Heap β where
  blocks other := if other = address then block else heap.blocks other
  next := heap.next
  grants := heap.grants
  fresh other hother := by
    rw [if_neg (by omega)]
    exact heap.fresh other hother

-- A call of an allocator, with what it hands out.
def Heap.push (heap : Heap β) (block : Option β) : Heap β where
  blocks address := if address = heap.next then block else heap.blocks address
  next := heap.next + 1
  grants := heap.grants
  fresh address haddress := by
    rw [if_neg (by omega)]
    exact heap.fresh address (by omega)

-- A call of malloc has its answer.
def Heap.asked (heap : Heap β) : Heap β := { heap with grants := fun call => heap.grants (call + 1) }

-- Null where there is no room.
def malloc (block : β) : Program β (Option Nat) := fun heap =>
  if heap.grants 0 then some (some heap.next, (heap.push (some block)).asked)
  else some (none, heap.asked)

-- An allocation that does not return without a block.
def allocate (block : β) : Program β Nat := fun heap => some (heap.next, heap.push (some block))

def load (address : Nat) : Program β β := fun heap =>
  match heap.blocks address with
  | none => none
  | some block => some (block, heap)

def replace (address : Nat) (block : Option β) : Program β Unit := fun heap =>
  match hlive : heap.blocks address with
  | none => none
  | some _ => some ((), heap.write address block (Heap.lt_next hlive))

def store (address : Nat) (block : β) : Program β Unit := replace address (some block)

-- Null is not a block, and nothing is done.
def free : Option Nat → Program β Unit
  | none => pure ()
  | some address => replace address none

section Footprint

abbrev Cells (β : Type) := Multiset (Nat × β)

def addresses (cells : Cells β) : Multiset Nat := cells.map Prod.fst

@[simp] theorem addresses_zero : addresses (0 : Cells β) = 0 := rfl

@[simp] theorem addresses_add (first second : Cells β) :
    addresses (first + second) = addresses first + addresses second := Multiset.map_add _ _ _

@[simp] theorem addresses_singleton (cell : Nat × β) : addresses {cell} = {cell.1} := rfl

theorem mem_addresses {cells : Cells β} {cell : Nat × β} (hcell : cell ∈ cells) : cell.1 ∈ addresses cells :=
  Multiset.mem_map_of_mem _ hcell

-- The heap is `base` with the cells, which have addresses of their own.
structure Holds (base : Nat → Option β) (cells : Cells β) (heap : Heap β) : Prop where
  distinct : (addresses cells).Nodup
  apart : ∀ address ∈ addresses cells, base address = none
  live : ∀ cell ∈ cells, heap.blocks cell.1 = some cell.2
  rest : ∀ address ∉ addresses cells, heap.blocks address = base address

theorem Holds.nothing (heap : Heap β) : Holds heap.blocks 0 heap := by
  constructor <;> simp

theorem Holds.blocks_eq {base : Nat → Option β} {heap : Heap β} (hheap : Holds base 0 heap) :
    heap.blocks = base := by
  funext address
  exact hheap.rest address (by simp)

open Classical in
-- The base of the first cells has the second ones in it.
theorem Holds.split {base : Nat → Option β} {first second : Cells β} {heap : Heap β}
    (hheap : Holds base (first + second) heap) :
    ∃ wider : Nat → Option β, Holds wider first heap ∧
      ∀ (other : Cells β) (after : Heap β), Holds wider other after → Holds base (other + second) after := by
  obtain ⟨hdistinct, hapart, hlive, hrest⟩ := hheap
  simp only [addresses_add, Multiset.nodup_add, Multiset.mem_add] at hdistinct hapart hrest
  obtain ⟨hfirst, hsecond, hdisjoint⟩ := hdistinct
  have hseparate : ∀ address ∈ addresses first, address ∉ addresses second := by
    intro address hone htwo
    exact Multiset.disjoint_left.mp hdisjoint hone htwo
  refine ⟨fun address => if address ∈ addresses second then heap.blocks address else base address,
    ⟨hfirst, ?_, ?_, ?_⟩, ?_⟩
  · intro address hmem
    rw [if_neg (hseparate address hmem)]
    exact hapart address (.inl hmem)
  · intro cell hcell
    exact hlive cell (Multiset.mem_add.mpr (.inl hcell))
  · intro address hmem
    by_cases htwo : address ∈ addresses second
    · rw [if_pos htwo]
    · rw [if_neg htwo]
      exact hrest address (by simp [hmem, htwo])
  · rintro other after ⟨hodistinct, hoapart, holive, horest⟩
    have hnew : ∀ address ∈ addresses other, address ∉ addresses second := by
      intro address hmem htwo
      obtain ⟨cell, hcell, rfl⟩ := Multiset.mem_map.mp htwo
      have hnone := hoapart cell.1 hmem
      rw [if_pos htwo, hlive cell (Multiset.mem_add.mpr (.inr hcell))] at hnone
      cases hnone
    refine ⟨?_, ?_, ?_, ?_⟩
    · rw [addresses_add, Multiset.nodup_add]
      exact ⟨hodistinct, hsecond, Multiset.disjoint_left.mpr fun hone htwo => hnew _ hone htwo⟩
    · intro address hmem
      rw [addresses_add, Multiset.mem_add] at hmem
      rcases hmem with hmem | hmem
      · have hnone := hoapart address hmem
        rwa [if_neg (hnew address hmem)] at hnone
      · exact hapart address (.inr hmem)
    · intro cell hcell
      rcases Multiset.mem_add.mp hcell with hcell | hcell
      · exact holive cell hcell
      · have htwo := mem_addresses hcell
        have hfree : cell.1 ∉ addresses other := fun hone => hnew cell.1 hone htwo
        rw [horest cell.1 hfree, if_pos htwo]
        exact hlive cell (Multiset.mem_add.mpr (.inr hcell))
    · intro address hmem
      rw [addresses_add, Multiset.mem_add, not_or] at hmem
      rw [horest address hmem.1, if_neg hmem.2]

end Footprint

section Triples

-- From a heap with the cells of `pre` the program is defined, it ends with the
-- cells of `post`, and the rest of the heap is as before.
def Triple (grants : Nat → Bool) (pre : Cells β) (program : Program β α) (post : α → Cells β → Prop) : Prop :=
  ∀ (base : Nat → Option β) (heap : Heap β), heap.grants = grants → Holds base pre heap →
    ∃ result after cells, program heap = some (result, after) ∧ post result cells ∧
      after.grants = grants ∧ Holds base cells after

variable {grants : Nat → Bool} {pre : Cells β} {program : Program β α} {post : α → Cells β → Prop}

theorem Triple.pure (result : α) (hpost : post result pre) :
    Triple grants pre (Pure.pure result : Program β α) post := by
  intro base heap hgrants hheap
  exact ⟨result, heap, pre, rfl, hpost, hgrants, hheap⟩

theorem Triple.bind {next : α → Program β γ} {middle : α → Cells β → Prop} {last : γ → Cells β → Prop}
    (hprogram : Triple grants pre program middle)
    (hnext : ∀ result cells, middle result cells → Triple grants cells (next result) last) :
    Triple grants pre (program >>= next) last := by
  intro base heap hgrants hheap
  obtain ⟨result, between, cells, hrun, hmiddle, hkept, hbetween⟩ := hprogram base heap hgrants hheap
  obtain ⟨final, after, rest, hlast, hpost, hend, hafter⟩ := hnext result cells hmiddle base between hkept hbetween
  refine ⟨final, after, rest, ?_, hpost, hend, hafter⟩
  show (program heap).bind (fun reached => next reached.1 reached.2) = _
  rw [hrun]
  exact hlast

theorem Triple.weaken {weaker : α → Cells β → Prop} (hprogram : Triple grants pre program post)
    (hle : ∀ result cells, post result cells → weaker result cells) : Triple grants pre program weaker := by
  intro base heap hgrants hheap
  obtain ⟨result, after, cells, hrun, hpost, hkept, hafter⟩ := hprogram base heap hgrants hheap
  exact ⟨result, after, cells, hrun, hle result cells hpost, hkept, hafter⟩

-- What a program does not own it leaves alone.
theorem Triple.frame (hprogram : Triple grants pre program post) (rest : Cells β) :
    Triple grants (pre + rest) program (fun result cells => ∃ own, post result own ∧ cells = own + rest) := by
  intro base heap hgrants hheap
  obtain ⟨wider, hwider, hback⟩ := hheap.split
  obtain ⟨result, after, cells, hrun, hpost, hkept, hafter⟩ := hprogram wider heap hgrants hwider
  exact ⟨result, after, cells + rest, hrun, ⟨cells, hpost, rfl⟩, hkept, hback cells after hafter⟩

-- A step of a longer program that owns more than the step needs.
theorem Triple.step {next : α → Program β γ} {whole rest : Cells β} {last : γ → Cells β → Prop}
    (hprogram : Triple grants pre program post) (hwhole : whole = pre + rest)
    (hnext : ∀ result own, post result own → Triple grants (own + rest) (next result) last) :
    Triple grants whole (program >>= next) last := by
  rw [hwhole]
  apply Triple.bind (hprogram.frame rest)
  rintro result cells ⟨own, hpost, rfl⟩
  exact hnext result own hpost

-- What has been read is given back.
theorem Triple.thenRelease {release : Program β Unit} {result : α → Prop}
    (hread : Triple grants pre program fun value cells => result value ∧ cells = pre)
    (hrelease : Triple grants pre release fun _ cells => cells = 0) :
    Triple grants pre (do let value ← program; release; return value) fun value cells =>
      result value ∧ cells = 0 := by
  apply hread.bind
  rintro value _ ⟨hresult, rfl⟩
  apply hrelease.bind
  rintro _ _ rfl
  exact Triple.pure value ⟨hresult, rfl⟩

-- A program that ends owning nothing gives back all it has allocated.
theorem Triple.run {result : α → Prop}
    (hprogram : Triple grants 0 program fun value cells => result value ∧ cells = 0)
    {heap : Heap β} (hgrants : heap.grants = grants) :
    ∃ value after, program heap = some (value, after) ∧ result value ∧
      after.blocks = heap.blocks ∧ after.grants = grants := by
  obtain ⟨value, after, cells, hrun, ⟨hresult, rfl⟩, hkept, hafter⟩ :=
    hprogram heap.blocks heap hgrants (Holds.nothing heap)
  exact ⟨value, after, hrun, hresult, hafter.blocks_eq, hkept⟩

end Triples

section Blocks

variable {grants : Nat → Bool}

theorem Holds.push {base : Nat → Option β} {heap : Heap β} (hheap : Holds base 0 heap) (block : β) :
    Holds base {(heap.next, block)} (heap.push (some block)) := by
  have hbase := hheap.blocks_eq
  refine ⟨by simp, ?_, ?_, ?_⟩
  · intro address hmem
    obtain rfl : address = heap.next := by simpa using hmem
    rw [← hbase]
    exact heap.fresh heap.next (Nat.le_refl _)
  · intro cell hcell
    obtain rfl := Multiset.mem_singleton.mp hcell
    exact if_pos rfl
  · intro address hmem
    have hne : address ≠ heap.next := by simpa using hmem
    rw [← hbase]
    exact if_neg hne

theorem allocate_triple (block : β) :
    Triple grants 0 (allocate block) fun place cells => cells = {(place, block)} := by
  intro base heap hgrants hheap
  exact ⟨heap.next, heap.push (some block), _, rfl, rfl, hgrants, hheap.push block⟩

theorem load_triple (place : Nat) (block : β) : Triple grants {(place, block)} (load place) fun read cells =>
    read = block ∧ cells = {(place, block)} := by
  intro base heap hgrants hheap
  have hlive : heap.blocks place = some block := hheap.live (place, block) (by simp)
  refine ⟨block, heap, _, ?_, ⟨rfl, rfl⟩, hgrants, hheap⟩
  rw [load, hlive]

-- Writing a block, or giving it back.
theorem replace_triple (place : Nat) (before : β) (block : Option β) :
    Triple grants {(place, before)} (replace place block) fun _ cells =>
      cells = match block with
        | none => 0
        | some block => {(place, block)} := by
  intro base heap hgrants hheap
  have hlive : heap.blocks place = some before := hheap.live (place, before) (by simp)
  refine ⟨(), heap.write place block (Heap.lt_next hlive), _, ?_, rfl, hgrants, ?_⟩
  · unfold replace
    split
    · rename_i hnone
      rw [hlive] at hnone
      cases hnone
    · rfl
  · have hapart : base place = none := hheap.apart place (by simp)
    have hother : ∀ address ≠ place,
        (heap.write place block (Heap.lt_next hlive)).blocks address = base address := by
      intro address hne
      rw [← hheap.rest address (by simpa using hne)]
      exact if_neg hne
    have hself : (heap.write place block (Heap.lt_next hlive)).blocks place = block := if_pos rfl
    cases block with
    | none =>
        refine ⟨by simp, by simp, by simp, ?_⟩
        intro address _
        by_cases he : address = place
        · rw [he, hself, hapart]
        · exact hother address he
    | some block =>
        refine ⟨by simp, by simpa using hapart, by simpa using hself, ?_⟩
        intro address hmem
        exact hother address (by simpa using hmem)

theorem store_triple (place : Nat) (before block : β) :
    Triple grants {(place, before)} (store place block) fun _ cells => cells = {(place, block)} :=
  replace_triple place before (some block)

theorem free_triple (place : Nat) (block : β) :
    Triple grants {(place, block)} (free (some place)) fun _ cells => cells = 0 :=
  replace_triple place block none

theorem free_null_triple : Triple grants 0 (free (none : Option Nat) : Program β Unit) fun _ cells => cells = 0 :=
  Triple.pure () rfl

end Blocks

section Lists

variable {grants : Nat → Bool} {δ : Type}

-- Each of the first values has its second value, and cells of its own.
inductive Each (rel : α → γ → Cells β → Prop) : List α → List γ → Cells β → Prop
  | Nil : Each rel [] [] 0
  | Cons {value : α} {other : γ} {values : List α} {others : List γ} {own rest : Cells β} :
      rel value other own → Each rel values others rest → Each rel (value :: values) (other :: others) (own + rest)

variable {rel : α → γ → Cells β → Prop}

theorem Each.length_eq {values : List α} {others : List γ} {cells : Cells β}
    (heach : Each rel values others cells) :
    values.length = others.length := by
  induction heach with
  | Nil => rfl
  | Cons _ _ ih => rw [List.length_cons, List.length_cons, ih]

theorem Each.snoc {values : List α} {others : List γ} {cells own : Cells β} {value : α} {other : γ}
    (heach : Each rel values others cells) (hown : rel value other own) :
    Each rel (values ++ [value]) (others ++ [other]) (cells + own) := by
  induction heach with
  | Nil =>
      rw [add_comm]
      exact .Cons hown .Nil
  | Cons hfirst _ ih =>
      rw [add_assoc]
      exact .Cons hfirst ih

theorem Each.use {program : γ → Program β δ} {read : α → δ → Prop}
    (hprogram : ∀ value other cells, rel value other cells →
      Triple grants cells (program other) fun result after => read value result ∧ after = cells)
    {values : List α} {others : List γ} {cells : Cells β} (heach : Each rel values others cells) :
    Triple grants cells (others.mapM program) fun results after =>
      List.Forall₂ read values results ∧ after = cells := by
  induction heach with
  | Nil => exact Triple.pure [] ⟨.nil, rfl⟩
  | @Cons value other values others own rest hown _ ih =>
      rw [List.mapM_cons]
      apply (hprogram value other own hown).step rfl
      rintro result _ ⟨hread, rfl⟩
      apply ih.step (add_comm _ rest)
      rintro results _ ⟨hreads, rfl⟩
      exact Triple.pure _ ⟨.cons hread hreads, add_comm _ _⟩

theorem Each.release {program : γ → Program β Unit}
    (hprogram : ∀ value other cells, rel value other cells →
      Triple grants cells (program other) fun _ after => after = 0)
    {values : List α} {others : List γ} {cells : Cells β} (heach : Each rel values others cells) :
    Triple grants cells (others.forM program) fun _ after => after = 0 := by
  induction heach with
  | Nil => exact Triple.pure () rfl
  | @Cons value other values others own rest hown _ ih =>
      show Triple grants (own + rest) (program other >>= fun _ => others.forM program) _
      apply (hprogram value other own hown).step rfl
      rintro _ _ rfl
      rw [zero_add]
      exact ih

end Lists

end Memory
