import OpenvpnConnect.Text.Find

-- The blocks of a text from an opening to the first closing after it, from left to right.
namespace Text

-- Disjoint parts of a text, in its order.
inductive InOrder : List Str → Str → Prop
  | Last {rest : Str} : InOrder [] rest
  | Part {gap part rest : Str} {parts : List Str} (hparts : InOrder parts rest) :
      InOrder (part :: parts) (gap ++ (part ++ rest))

def IsBlock (opening closing block : Str) : Prop :=
  opening <+: block ∧ ∃ front, block = front ++ closing ∧ OnlyAtEnd closing front

-- After no opening comes a closing.
def NoBlock (opening closing text : Str) : Prop := ∀ rest, rest <:+ text → opening <+: rest → ¬closing <:+: rest

inductive Blocks (opening closing : Str) : List Str → Str → Prop
  | Last {rest : Str} (hno : NoBlock opening closing rest) : Blocks opening closing [] rest
  | Block {gap block rest : Str} {blocks : List Str} (hgap : OnlyAtEnd opening gap)
      (hblock : IsBlock opening closing block) (hrest : Blocks opening closing blocks rest) :
      Blocks opening closing (block :: blocks) (gap ++ (block ++ rest))

-- Between two openings begins a closing.
def Untruncated (opening closing text : Str) : Prop :=
  ∀ first second, first < second → opening <+: text.drop first → opening <+: text.drop second →
    ∃ between, first ≤ between ∧ between < second ∧ closing <+: text.drop between

variable {opening closing text : Str} {blocks : List Str}

theorem Blocks.inOrder (hblocks : Blocks opening closing blocks text) : InOrder blocks text := by
  induction hblocks with
  | Last _ => exact .Last
  | Block _ _ _ ih => exact .Part ih

theorem Blocks.isBlock (hblocks : Blocks opening closing blocks text) :
    ∀ block ∈ blocks, IsBlock opening closing block := by
  induction hblocks with
  | Last _ => nofun
  | Block _ hblock _ ih => exact List.forall_mem_cons.mpr ⟨hblock, ih⟩

theorem IsBlock.once_closing {block : Str} (hblock : IsBlock opening closing block) (hclosing : closing ≠ []) :
    Once closing block := by
  obtain ⟨_, front, rfl, honly⟩ := hblock
  exact honly.once hclosing

-- A closing that begins in an opening may end after it, but is no part of it.
theorem isBlock_of_opening {front rest : Str} (hpart : ¬closing <:+: opening) (honly : OnlyAtEnd closing front)
    (hopening : opening <+: front ++ (closing ++ rest)) : IsBlock opening closing (front ++ closing) := by
  refine ⟨?_, front, rfl, honly⟩
  have hblock : front ++ closing <+: front ++ (closing ++ rest) := by
    rw [← List.append_assoc]
    exact List.prefix_append _ rest
  rcases List.prefix_or_prefix_of_prefix hopening hblock with hwithin | hbeyond
  · exact hwithin
  · exact absurd ((List.suffix_append front closing).isInfix.trans hbeyond.isInfix) hpart

theorem noBlock_of_free (hopening : ¬opening <:+: text) : NoBlock opening closing text :=
  fun _ hrest hhead => absurd (hhead.isInfix.trans hrest.isInfix) hopening

-- Every text has its blocks: the first one begins at the first opening, and
-- the others are those of the text after it.
theorem exists_blocks (hclosing : closing ≠ []) (hpart : ¬closing <:+: opening) (text : Str) :
    ∃ blocks, Blocks opening closing blocks text := by
  induction hlength : text.length using Nat.strongRecOn generalizing text with
  | ind length ih =>
      by_cases hno : NoBlock opening closing text
      · exact ⟨[], .Last hno⟩
      · simp only [NoBlock, not_forall, not_not] at hno
        obtain ⟨suffix, hsuffix, hhead, hafter⟩ := hno
        obtain ⟨gap, after, rfl, hgap⟩ := exists_onlyAtEnd (hhead.isInfix.trans hsuffix.isInfix)
        have hlater := hgap.later hsuffix hhead
        obtain ⟨front, rest, hfront, honly⟩ := exists_onlyAtEnd (hafter.trans hlater.isInfix)
        have hopening : opening <+: front ++ (closing ++ rest) := hfront ▸ List.prefix_append opening after
        have hpos := List.length_pos_iff.mpr hclosing
        have hshorter : rest.length < length := by
          rw [← hlength, hfront]
          simp only [List.length_append]
          omega
        obtain ⟨blocks, hblocks⟩ := ih rest.length hshorter rest rfl
        rw [hfront, ← List.append_assoc front]
        exact ⟨(front ++ closing) :: blocks, .Block hgap (isBlock_of_opening hpart honly hopening) hblocks⟩

-- Sections of a gap and a body have their bodies as blocks.
theorem blocks_of_sections {sections : List (Str × Str)} {tail : Str}
    (hsections : ∀ part ∈ sections, OnlyAtEnd opening part.1 ∧ OnlyAtEnd closing (opening ++ part.2))
    (htail : ¬opening <:+: tail) :
    Blocks opening closing (sections.map fun part => opening ++ part.2 ++ closing)
      ((sections.flatMap fun part => part.1 ++ (opening ++ part.2 ++ closing)) ++ tail) := by
  induction sections with
  | nil => exact .Last (noBlock_of_free htail)
  | cons part sections ih =>
      obtain ⟨⟨hgap, hbody⟩, hrest⟩ := List.forall_mem_cons.mp hsections
      have hopening : opening <+: opening ++ part.2 ++ closing := by
        rw [List.append_assoc]
        exact List.prefix_append opening _
      rw [List.flatMap_cons, List.append_assoc, List.append_assoc]
      exact .Block hgap ⟨hopening, opening ++ part.2, rfl, hbody⟩ (ih hrest)

theorem Untruncated.of_append {gap rest : Str} (htext : Untruncated opening closing (gap ++ rest)) :
    Untruncated opening closing rest := by
  intro first second hlt hfirst hsecond
  rw [← @List.drop_length_add_append _ gap] at hfirst hsecond
  obtain ⟨between, hle, hbefore, hat⟩ := htext _ _ (Nat.add_lt_add_left hlt gap.length) hfirst hsecond
  obtain ⟨offset, rfl⟩ := Nat.exists_eq_add_of_le (Nat.le_trans (Nat.le_add_right _ first) hle)
  rw [List.drop_length_add_append] at hat
  exact ⟨offset, by omega, by omega, hat⟩

-- A second opening in a block would have the closing before it, which is longer
-- than what is left there.
theorem IsBlock.once_opening {block rest : Str} (hblock : IsBlock opening closing block) (hclosing : closing ≠ [])
    (hle : closing.length ≤ opening.length) (htext : Untruncated opening closing (block ++ rest)) :
    Once opening block := by
  have hpos := List.length_pos_iff.mpr hclosing
  have hopening : opening ≠ [] := List.length_pos_iff.mp (by omega)
  obtain ⟨hhead, front, rfl, honly⟩ := hblock
  refine ⟨0, hhead, fun position hat => ?_⟩
  have hend := length_le_of_prefix_drop hopening hat
  rw [List.length_append] at hend
  by_contra hne
  have hdrop : ∀ {count : Nat}, count ≤ (front ++ closing).length →
      (front ++ closing ++ rest).drop count = (front ++ closing).drop count ++ rest :=
    List.drop_append_of_le_length
  obtain ⟨between, _, hbefore, hbetween⟩ := htext 0 position (by omega) (hhead.trans (List.prefix_append _ rest)) (by
    rw [hdrop (by rw [List.length_append]; omega)]
    exact hat.trans (List.prefix_append _ rest))
  rw [hdrop (by rw [List.length_append]; omega)] at hbetween
  have hwithin : closing <+: (front ++ closing).drop between := by
    apply List.prefix_of_prefix_length_le hbetween (List.prefix_append _ rest)
    rw [List.length_drop, List.length_append]
    omega
  have hlast := honly.position_eq hclosing hwithin
  omega

theorem Blocks.once_opening (hblocks : Blocks opening closing blocks text) (hclosing : closing ≠ [])
    (hle : closing.length ≤ opening.length) (htext : Untruncated opening closing text) :
    ∀ block ∈ blocks, Once opening block := by
  induction hblocks with
  | Last _ => nofun
  | Block _ hblock _ ih =>
      have hrest := htext.of_append
      exact List.forall_mem_cons.mpr ⟨hblock.once_opening hclosing hle hrest, ih hrest.of_append⟩

end Text
