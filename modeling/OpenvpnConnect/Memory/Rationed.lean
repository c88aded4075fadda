import OpenvpnConnect.Memory.Heap

-- What a program answers that asks malloc for its blocks: a computation without a
-- heap, which asks for room as often and in the same order.
namespace Memory

variable {β α γ δ ε : Type}

-- What malloc has still to answer is all the state.
abbrev Rationed (δ : Type) := StateM (Nat → Bool) δ

-- The answer of the next call.
def room : Rationed Bool := fun grants => (grants 0, fun call => grants (call + 1))

-- A list that is delivered in an array of its own, or not at all.
def arrayed (element : α → Rationed δ) (values : List α) : Rationed (List δ) := do
  if values.isEmpty then
    return []
  if ← room then values.mapM element else return []

-- The program is defined, ends with the cells of `post` and with malloc's answers
-- where the ideal ends with them; `post` relates the two results.
def Follows (ideal : Rationed δ) (pre : Cells β) (program : Program β α) (post : δ → α → Cells β → Prop) : Prop :=
  ∀ (base : Nat → Option β) (heap : Heap β), Holds base pre heap →
    ∃ result after cells, program heap = some (result, after) ∧
      post (ideal.run heap.grants).1 result cells ∧
      after.grants = (ideal.run heap.grants).2 ∧ Holds base cells after

section Rules

variable {ideal : Rationed δ} {pre : Cells β} {program : Program β α} {post : δ → α → Cells β → Prop}

theorem Follows.pure {value : δ} {result : α} (hpost : post value result pre) :
    Follows (pure value) pre (pure result : Program β α) post := by
  intro base heap hheap
  exact ⟨result, heap, pre, rfl, hpost, rfl, hheap⟩

theorem Follows.bind {next : α → Program β γ} {idealNext : δ → Rationed ε} {last : ε → γ → Cells β → Prop}
    (hprogram : Follows ideal pre program post)
    (hnext : ∀ value result cells, post value result cells → Follows (idealNext value) cells (next result) last) :
    Follows (ideal >>= idealNext) pre (program >>= next) last := by
  intro base heap hheap
  obtain ⟨result, between, cells, hrun, hpost, hkept, hbetween⟩ := hprogram base heap hheap
  obtain ⟨final, after, rest, hlast, hfinal, hend, hafter⟩ := hnext _ result cells hpost base between hbetween
  rw [hkept] at hfinal hend
  refine ⟨final, after, rest, ?_, hfinal, hend, hafter⟩
  show (program heap).bind (fun reached => next reached.1 reached.2) = _
  rw [hrun]
  exact hlast

theorem Follows.weaken {weaker : δ → α → Cells β → Prop} (hprogram : Follows ideal pre program post)
    (hle : ∀ value result cells, post value result cells → weaker value result cells) :
    Follows ideal pre program weaker := by
  intro base heap hheap
  obtain ⟨result, after, cells, hrun, hpost, hkept, hafter⟩ := hprogram base heap hheap
  exact ⟨result, after, cells, hrun, hle _ result cells hpost, hkept, hafter⟩

theorem Follows.frame (hprogram : Follows ideal pre program post) (rest : Cells β) :
    Follows ideal (pre + rest) program
      (fun value result cells => ∃ own, post value result own ∧ cells = own + rest) := by
  intro base heap hheap
  obtain ⟨wider, hwider, hback⟩ := hheap.split
  obtain ⟨result, after, cells, hrun, hpost, hkept, hafter⟩ := hprogram wider heap hwider
  exact ⟨result, after, cells + rest, hrun, ⟨cells, hpost, rfl⟩, hkept, hback cells after hafter⟩

-- A step of a longer program that owns more than the step needs.
theorem Follows.step {next : α → Program β γ} {idealNext : δ → Rationed ε} {whole rest : Cells β}
    {last : ε → γ → Cells β → Prop} (hprogram : Follows ideal pre program post) (hwhole : whole = pre + rest)
    (hnext : ∀ value result own, post value result own →
      Follows (idealNext value) (own + rest) (next result) last) :
    Follows (ideal >>= idealNext) whole (program >>= next) last := by
  rw [hwhole]
  apply Follows.bind (hprogram.frame rest)
  rintro value result cells ⟨own, hpost, rfl⟩
  exact hnext value result own hpost

-- What the ideal makes of its value at the end.
theorem Follows.convert {turn : δ → ε} {last : ε → α → Cells β → Prop} (hprogram : Follows ideal pre program post)
    (hlast : ∀ value result cells, post value result cells → last (turn value) result cells) :
    Follows (ideal >>= fun value => Pure.pure (turn value)) pre program last := by
  rw [← bind_pure program]
  exact hprogram.bind fun value result cells hpost => Follows.pure (hlast value result cells hpost)

theorem Follows.map {convert : δ → ε} {turn : α → γ} {last : ε → γ → Cells β → Prop}
    (hprogram : Follows ideal pre program post)
    (hlast : ∀ value result cells, post value result cells → last (convert value) (turn result) cells) :
    Follows (convert <$> ideal) pre (turn <$> program) last := by
  rw [map_eq_pure_bind, map_eq_pure_bind]
  exact hprogram.bind fun value result cells hpost => Follows.pure (hlast value result cells hpost)

-- A program that asks for no room leaves the ideal where it is.
theorem Follows.of_triple {quiet : α → Cells β → Prop} (hprogram : ∀ grants, Triple grants pre program quiet)
    (value : δ) :
    Follows (Pure.pure value) pre program fun reached result cells => reached = value ∧ quiet result cells := by
  intro base heap hheap
  obtain ⟨result, after, cells, hrun, hquiet, hkept, hafter⟩ := hprogram heap.grants base heap rfl hheap
  exact ⟨result, after, cells, hrun, ⟨rfl, hquiet⟩, hkept, hafter⟩

theorem Follows.after_triple {quiet : α → Cells β → Prop} {next : α → Program β γ} {last : δ → γ → Cells β → Prop}
    (hprogram : ∀ grants, Triple grants pre program quiet)
    (hnext : ∀ result cells, quiet result cells → Follows ideal cells (next result) last) :
    Follows ideal pre (program >>= next) last := by
  have hideal : ideal = Pure.pure () >>= fun _ => ideal := (pure_bind () fun _ => ideal).symm
  rw [hideal]
  apply (Follows.of_triple hprogram ()).bind
  rintro _ result cells ⟨_, hquiet⟩
  exact hnext result cells hquiet

end Rules

section Answers

-- The program answers what its ideal answers.
abbrev Answers (ideal : Rationed α) (pre : Cells β) (program : Program β α) : Prop :=
  Follows ideal pre program fun value result cells => result = value ∧ cells = pre

variable {ideal : Rationed α} {pre : Cells β} {program : Program β α}

-- What is acquired is read and given back.
theorem Follows.bracket {acquire : Program β γ} {owns : α → γ → Cells β → Prop} {use : γ → Program β α}
    (hacquire : Follows ideal 0 acquire owns)
    (huse : ∀ grants value raw cells, owns value raw cells →
      Triple grants cells (use raw) fun result after => result = value ∧ after = 0) :
    Answers ideal 0 (acquire >>= use) := by
  rw [← bind_pure ideal]
  apply hacquire.bind
  intro value raw cells howns
  apply (Follows.of_triple (fun grants => huse grants value raw cells howns) value).weaken
  rintro _ result after ⟨rfl, hresult⟩
  exact hresult

-- A program that needs nothing runs beside anything.
theorem Answers.beside (hprogram : Answers ideal 0 program) (rest : Cells β) : Answers ideal rest program := by
  have hframed := hprogram.frame rest
  rw [zero_add] at hframed
  apply hframed.weaken
  rintro value _ _ ⟨_, ⟨hresult, rfl⟩, rfl⟩
  exact ⟨hresult, zero_add rest⟩

theorem Answers.map {convert : α → γ} (hprogram : Answers ideal pre program) :
    Answers (convert <$> ideal) pre (convert <$> program) := by
  apply Follows.map hprogram
  rintro value _ _ ⟨rfl, hcells⟩
  exact ⟨rfl, hcells⟩

theorem Answers.mapM {idealOf : γ → Rationed α} {programOf : γ → Program β α}
    (hprogram : ∀ value, Answers (idealOf value) pre (programOf value)) (values : List γ) :
    Answers (values.mapM idealOf) pre (values.mapM programOf) := by
  induction values with
  | nil => exact Follows.pure ⟨rfl, rfl⟩
  | cons value values ih =>
      rw [List.mapM_cons, List.mapM_cons]
      apply (hprogram value).bind
      rintro answer _ _ ⟨rfl, rfl⟩
      apply ih.bind
      rintro answers _ _ ⟨rfl, rfl⟩
      exact Follows.pure ⟨rfl, rfl⟩

-- From any heap, the answer that malloc's answers on it decide, and the heap as before.
theorem Answers.run (hprogram : Answers ideal 0 program) (heap : Heap β) :
    ∃ after, program heap = some ((ideal.run heap.grants).1, after) ∧
      after.grants = (ideal.run heap.grants).2 ∧ after.blocks = heap.blocks := by
  obtain ⟨_, after, _, hrun, ⟨rfl, rfl⟩, hkept, hafter⟩ := hprogram heap.blocks heap (Holds.nothing heap)
  exact ⟨after, hrun, hkept, hafter.blocks_eq⟩

end Answers

section Room

theorem malloc_follows (block : β) : Follows room 0 (malloc block) fun granted address cells =>
    (granted = false ∧ address = none ∧ cells = 0) ∨
      ∃ place, granted = true ∧ address = some place ∧ cells = {(place, block)} := by
  intro base heap hheap
  by_cases hroom : heap.grants 0 = true
  · have hheld := hheap.push block
    refine ⟨some heap.next, (heap.push (some block)).asked, _, ?_, .inr ⟨heap.next, hroom, rfl, rfl⟩, rfl,
      hheld.distinct, hheld.apart, hheld.live, hheld.rest⟩
    rw [malloc, if_pos hroom]
  · refine ⟨none, heap.asked, 0, ?_, .inl ⟨Bool.eq_false_of_not_eq_true hroom, rfl, rfl⟩, rfl,
      hheap.distinct, hheap.apart, hheap.live, hheap.rest⟩
    rw [malloc, if_neg hroom]

end Room

end Memory
