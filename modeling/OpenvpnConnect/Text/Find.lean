import OpenvpnConnect.Text.Lemmas

namespace Text

-- std::string::find of a text that is not empty.
def find (needle : Str) : Str → Option Nat
  | [] => none
  | c :: rest => if needle.isPrefixOf (c :: rest) then some 0 else (find needle rest).map (· + 1)

def findFrom (needle text : Str) (start : Nat) : Option Nat := (find needle (text.drop start)).map (start + ·)

-- The text followed by the needle has the needle only at its end.
def OnlyAtEnd (needle text : Str) : Prop :=
  ∀ before after, text ++ needle = before ++ needle ++ after → after = []

-- The needle is at one place of the text.
def Once (needle text : Str) : Prop := ∃! position, needle <+: text.drop position

variable {needle text rest : Str}

section OnlyAtEnd

theorem onlyAtEnd_iff :
    OnlyAtEnd needle text ↔ ∀ suffix, suffix <:+ text → suffix ≠ [] → ¬needle <+: suffix ++ needle := by
  constructor
  · rintro honly suffix ⟨before, rfl⟩ hsome ⟨after, hafter⟩
    have hnil := honly before after (by rw [List.append_assoc, ← hafter, List.append_assoc])
    rw [hnil, List.append_nil] at hafter
    have hlength := congrArg List.length hafter
    rw [List.length_append] at hlength
    exact hsome (List.length_eq_zero_iff.mp (by omega))
  · intro hno before after he
    rw [List.append_assoc] at he
    have hlength := congrArg List.length he
    rcases List.append_eq_append_iff.mp he with ⟨between, rfl, _⟩ | ⟨suffix, rfl, hneedle⟩
    · simp only [List.length_append] at hlength
      exact List.length_eq_zero_iff.mp (by omega)
    · by_cases hsome : suffix = []
      · simp only [hsome, List.length_append, List.length_nil] at hlength
        exact List.length_eq_zero_iff.mp (by omega)
      · exact absurd ⟨after, hneedle⟩ (hno suffix (List.suffix_append before suffix) hsome)

theorem onlyAtEnd_nil : OnlyAtEnd needle [] :=
  onlyAtEnd_iff.mpr fun _ hsuffix hsome => absurd (List.suffix_nil.mp hsuffix) hsome

-- What is only at the end does not begin before it.
theorem OnlyAtEnd.eq_nil {suffix : Str} (honly : OnlyAtEnd needle text) (hsuffix : suffix <:+ text)
    (hat : needle <+: suffix ++ (needle ++ rest)) : suffix = [] := by
  by_contra hsome
  apply onlyAtEnd_iff.mp honly suffix hsuffix hsome
  apply List.prefix_of_prefix_length_le hat
  · rw [← List.append_assoc]
    exact List.prefix_append _ rest
  · rw [List.length_append]
    omega

theorem OnlyAtEnd.suffix {suffix : Str} (honly : OnlyAtEnd needle text) (hsuffix : suffix <:+ text) :
    OnlyAtEnd needle suffix :=
  onlyAtEnd_iff.mpr fun part hpart => onlyAtEnd_iff.mp honly part (hpart.trans hsuffix)

-- A text without the needle's first character.
theorem onlyAtEnd_of_not_mem {first : Char} (hneedle : needle.head? = some first) (hfree : first ∉ text) :
    OnlyAtEnd needle text := by
  obtain ⟨more, rfl⟩ := List.head?_eq_some_iff.mp hneedle
  rw [onlyAtEnd_iff]
  intro suffix hsuffix hsome hat
  obtain ⟨c, others, rfl⟩ := List.exists_cons_of_ne_nil hsome
  have hc : first = c := (List.cons_prefix_cons.mp hat).1
  exact hfree (hsuffix.subset (hc ▸ List.mem_cons_self))

-- A text that does not have the needle, and ends with a character that is no part
-- of it, has it only at the end.
theorem onlyAtEnd_of_getLast {last : Char} (hpart : ¬needle <:+: text) (hlast : text.getLast? = some last)
    (hfree : last ∉ needle) : OnlyAtEnd needle text :=
  onlyAtEnd_iff.mpr fun _ hsuffix hsome => not_prefix_of_suffix hlast hfree hpart hsuffix hsome

-- The first place of the needle in a text.
theorem exists_onlyAtEnd (hpart : needle <:+: text) :
    ∃ before after, text = before ++ (needle ++ after) ∧ OnlyAtEnd needle before := by
  induction text with
  | nil =>
      obtain rfl := List.eq_nil_of_infix_nil hpart
      exact ⟨[], [], rfl, onlyAtEnd_nil⟩
  | cons c text ih =>
      by_cases hhead : needle <+: c :: text
      · obtain ⟨after, hafter⟩ := hhead
        exact ⟨[], after, hafter.symm, onlyAtEnd_nil⟩
      · obtain ⟨before, after, rfl, honly⟩ := ih ((List.infix_cons_iff.mp hpart).resolve_left hhead)
        refine ⟨c :: before, after, rfl, onlyAtEnd_iff.mpr fun suffix hsuffix hsome hat => ?_⟩
        rcases List.suffix_cons_iff.mp hsuffix with rfl | hlater
        · apply hhead
          rw [← List.cons_append, ← List.append_assoc]
          exact hat.trans (List.prefix_append _ after)
        · exact onlyAtEnd_iff.mp honly suffix hlater hsome hat

-- No later place is in what comes before the first one.
theorem OnlyAtEnd.later {suffix : Str} (honly : OnlyAtEnd needle text) (hsuffix : suffix <:+ text ++ (needle ++ rest))
    (hat : needle <+: suffix) : suffix <:+ needle ++ rest := by
  rcases List.suffix_or_suffix_of_suffix hsuffix (List.suffix_append text (needle ++ rest)) with hwithin | hbeyond
  · exact hwithin
  · obtain ⟨more, rfl⟩ := hbeyond
    obtain ⟨before, hbefore⟩ := hsuffix
    rw [← List.append_assoc] at hbefore
    have hmore : more <:+ text := ⟨before, List.append_cancel_right hbefore⟩
    have hnil := honly.eq_nil hmore hat
    exact ⟨[], by rw [hnil, List.nil_append, List.nil_append]⟩

theorem length_le_of_prefix_drop {position : Nat} (hneedle : needle ≠ []) (hat : needle <+: text.drop position) :
    position + needle.length ≤ text.length := by
  have hlength := hat.length_le
  have hpos := List.length_pos_iff.mpr hneedle
  rw [List.length_drop] at hlength
  omega

theorem OnlyAtEnd.position_eq (honly : OnlyAtEnd needle text) (hneedle : needle ≠ []) {position : Nat}
    (hat : needle <+: (text ++ needle).drop position) : position = text.length := by
  have hle := length_le_of_prefix_drop hneedle hat
  rw [List.length_append] at hle
  rw [List.drop_append_of_le_length (by omega)] at hat
  have hmore : needle <+: text.drop position ++ (needle ++ []) := by
    rw [List.append_nil]
    exact hat
  have hnil := honly.eq_nil (List.drop_suffix position text) hmore
  rw [List.drop_eq_nil_iff] at hnil
  omega

theorem OnlyAtEnd.once (honly : OnlyAtEnd needle text) (hneedle : needle ≠ []) : Once needle (text ++ needle) := by
  refine ⟨text.length, ?_, fun position hat => honly.position_eq hneedle hat⟩
  exact ⟨[], by rw [List.append_nil, List.drop_left]⟩

end OnlyAtEnd

section Found

-- What is only at the end is found there.
theorem find_onlyAtEnd (hneedle : needle ≠ []) (honly : OnlyAtEnd needle text) :
    find needle (text ++ (needle ++ rest)) = some text.length := by
  induction text with
  | nil =>
      obtain ⟨c, more, rfl⟩ := List.exists_cons_of_ne_nil hneedle
      exact if_pos (List.isPrefixOf_iff_prefix.mpr (List.prefix_append (c :: more) rest))
  | cons c text ih =>
      have hno : needle.isPrefixOf (c :: (text ++ (needle ++ rest))) = false := by
        rw [Bool.eq_false_iff, Ne, List.isPrefixOf_iff_prefix]
        exact fun hat => List.cons_ne_nil c text (honly.eq_nil (List.suffix_refl _) hat)
      have hmore := ih (honly.suffix (List.suffix_cons c text))
      rw [List.cons_append, find, hno, hmore]
      rfl

theorem findFrom_onlyAtEnd {whole : Str} {start : Nat} (hneedle : needle ≠ []) (honly : OnlyAtEnd needle text)
    (hwhole : whole.drop start = text ++ (needle ++ rest)) : findFrom needle whole start = some (start + text.length) := by
  rw [findFrom, hwhole, find_onlyAtEnd hneedle honly]
  rfl

theorem prefix_of_find {position : Nat} (hfind : find needle text = some position) : needle <+: text.drop position := by
  induction text generalizing position with
  | nil => cases hfind
  | cons c text ih =>
      rw [find] at hfind
      split at hfind
      · rename_i hhead
        rw [← Option.some.inj hfind]
        exact List.isPrefixOf_iff_prefix.mp hhead
      · obtain ⟨before, hbefore, rfl⟩ := Option.map_eq_some_iff.mp hfind
        exact ih hbefore

theorem prefix_of_findFrom {start position : Nat} (hfind : findFrom needle text start = some position) :
    start ≤ position ∧ needle <+: text.drop position := by
  obtain ⟨offset, hoffset, rfl⟩ := Option.map_eq_some_iff.mp hfind
  have hat := prefix_of_find hoffset
  rw [List.drop_drop] at hat
  exact ⟨Nat.le_add_right start offset, hat⟩

theorem find_eq_none (hneedle : needle ≠ []) : find needle text = none ↔ ¬needle <:+: text := by
  induction text with
  | nil => simpa [find] using hneedle
  | cons c text ih =>
      rw [find, List.infix_cons_iff, ← List.isPrefixOf_iff_prefix]
      split
      · rename_i hhead
        simp [hhead]
      · rename_i hhead
        simp [hhead, ih]

theorem findFrom_eq_none {start : Nat} (hneedle : needle ≠ []) :
    findFrom needle text start = none ↔ ¬needle <:+: text.drop start := by
  rw [findFrom, Option.map_eq_none_iff, find_eq_none hneedle]

end Found

theorem mem_of_prefix_cons {c : Char} (hneedle : needle ≠ []) (hhead : needle <+: c :: rest) : c ∈ needle := by
  obtain ⟨first, more, rfl⟩ := List.exists_cons_of_ne_nil hneedle
  rw [(List.cons_prefix_cons.mp hhead).1]
  exact List.mem_cons_self

-- No match goes past a character that is not in the needle.
theorem part_of_append_cons {c : Char} (hfree : c ∉ needle) (hpart : needle <:+: text ++ c :: rest) :
    needle <:+: text ∨ needle <:+: rest := by
  rcases List.infix_append_iff_ne_nil.mp hpart with hleft | hright | ⟨first, second, _, hsome, rfl, _, hsecond⟩
  · exact .inl hleft
  · rcases List.infix_cons_iff.mp hright with hhead | hrest
    · by_cases hnil : needle = []
      · exact .inl (hnil ▸ List.nil_infix)
      · exact absurd (mem_of_prefix_cons hnil hhead) hfree
    · exact .inr hrest
  · exact absurd (List.mem_append_right first (mem_of_prefix_cons hsome hsecond)) hfree

end Text
