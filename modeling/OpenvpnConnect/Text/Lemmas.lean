import OpenvpnConnect.Text

namespace Text

section StripPrefix

theorem stripPrefix_append (start rest : Str) : stripPrefix start (start ++ rest) = some rest := by
  rw [stripPrefix, if_pos (List.isPrefixOf_iff_prefix.mpr (List.prefix_append start rest)), List.drop_left]

theorem stripPrefix_eq_some {start text rest : Str} : stripPrefix start text = some rest ↔ text = start ++ rest := by
  constructor
  · intro hstrip
    rw [stripPrefix] at hstrip
    split at hstrip
    · rename_i hstart
      obtain ⟨more, rfl⟩ := List.isPrefixOf_iff_prefix.mp hstart
      rw [List.drop_left] at hstrip
      rw [Option.some.inj hstrip]
    · cases hstrip
  · rintro rfl
    exact stripPrefix_append start rest

theorem stripPrefix_of_ne {first c : Char} (hne : first ≠ c) (start rest : Str) :
    stripPrefix (first :: start) (c :: rest) = none := by
  have hhead : (first == c) = false := by simpa using hne
  rw [stripPrefix, List.isPrefixOf, hhead]
  rfl

end StripPrefix

section Split

variable {separator : Str}

theorem splitFrom_skip (skipped rest : Str) :
    splitFrom separator skipped.length (skipped ++ rest) = splitFrom separator 0 rest := by
  induction skipped with
  | nil => rfl
  | cons c skipped ih => exact ih

theorem split_separator (hseparator : separator ≠ []) (rest : Str) :
    split (separator ++ rest) separator = [] :: split rest separator := by
  obtain ⟨first, others, rfl⟩ := List.exists_cons_of_ne_nil hseparator
  have hprefix : (first :: others).isPrefixOf (first :: (others ++ rest)) = true :=
    List.isPrefixOf_iff_prefix.mpr (List.prefix_append (first :: others) rest)
  show splitFrom (first :: others) 0 (first :: (others ++ rest)) = _
  rw [splitFrom, if_pos hprefix]
  exact congrArg ([] :: ·) (splitFrom_skip others rest)

-- No match begins in a text that ends with a character that is not in the
-- separator, and that the separator is no part of.
theorem not_prefix_of_suffix {piece suffix rest : Str} {last : Char} (hlast : piece.getLast? = some last)
    (hfree : last ∉ separator) (hpart : ¬separator <:+: piece) (hsuffix : suffix <:+ piece) (hsome : suffix ≠ []) :
    ¬separator <+: suffix ++ rest := by
  intro hprefix
  rcases List.prefix_or_prefix_of_prefix hprefix (List.prefix_append suffix rest) with hinside | hbeyond
  · exact hpart (hinside.isInfix.trans hsuffix.isInfix)
  · have hmem : last ∈ suffix := by
      obtain ⟨before, rfl⟩ := hsuffix
      rw [List.getLast?_append_of_ne_nil _ hsome] at hlast
      exact List.mem_of_getLast? hlast
    exact hfree (hbeyond.subset hmem)

-- A piece is found whole, up to the next separator or the end.
theorem split_piece {piece rest : Str} {last : Char} (hlast : piece.getLast? = some last)
    (hfree : last ∉ separator) (hpart : ¬separator <:+: piece) {pieces : List Str}
    (hrest : split rest separator = [] :: pieces) : split (piece ++ rest) separator = piece :: pieces := by
  have hsuffix : ∀ suffix, suffix <:+ piece → splitFrom separator 0 (suffix ++ rest) = suffix :: pieces := by
    intro suffix
    induction suffix with
    | nil => exact fun _ => hrest
    | cons c more ih =>
        intro hsuffix
        have hno : (separator.isPrefixOf (c :: (more ++ rest))) = false := by
          rw [Bool.eq_false_iff, Ne, List.isPrefixOf_iff_prefix]
          exact not_prefix_of_suffix hlast hfree hpart hsuffix nofun
        have hmore := ih ((List.suffix_cons c more).trans hsuffix)
        rw [List.cons_append, splitFrom, hno, hmore]
        rfl
  exact hsuffix piece (List.suffix_refl piece)

theorem split_pieces (hseparator : separator ≠ []) {last : Char} (hfree : last ∉ separator) {pieces : List Str}
    (hpieces : ∀ piece ∈ pieces, piece.getLast? = some last ∧ ¬separator <:+: piece) :
    split (pieces.flatMap (separator ++ ·)) separator = [] :: pieces := by
  induction pieces with
  | nil => rfl
  | cons piece rest ih =>
      obtain ⟨⟨hlast, hpart⟩, hrest⟩ := List.forall_mem_cons.mp hpieces
      rw [List.flatMap_cons, List.append_assoc, split_separator hseparator,
        split_piece hlast hfree hpart (ih hrest)]

end Split

section Numbers

theorem toDigit_of_isDigit {c : Char} (hc : c.isDigit = true) : toDigit c 10 = some (c.toNat - '0'.toNat) := by
  have hrange : '0' ≤ c ∧ c ≤ '9' := by
    simpa [Char.isDigit, Char.le_def] using hc
  have hlt : c.toNat - '0'.toNat < 10 := by
    have hle : c.toNat ≤ '9'.toNat := hrange.2
    show c.toNat - 48 < 10
    have hnine : '9'.toNat = 57 := rfl
    omega
  rw [toDigit, if_pos hrange]
  simpa using hlt

theorem le_ofDigitChars (digits : Str) (value : Nat) : value ≤ Nat.ofDigitChars 10 digits value := by
  induction digits generalizing value with
  | nil => exact Nat.le_of_eq Nat.ofDigitChars_nil.symm
  | cons c rest ih =>
      rw [Nat.ofDigitChars_cons]
      have hmore := ih (10 * value + (c.toNat - '0'.toNat))
      omega

theorem readDigits_eq {max : Nat} {digits : Str} (hdigits : ∀ c ∈ digits, c.isDigit = true) {value : Nat}
    (hmax : Nat.ofDigitChars 10 digits value ≤ max) :
    readDigits 10 max value digits = .ok (Nat.ofDigitChars 10 digits value) := by
  induction digits generalizing value with
  | nil => rw [readDigits, Nat.ofDigitChars_nil]
  | cons c rest ih =>
      obtain ⟨hc, hrest⟩ := List.forall_mem_cons.mp hdigits
      rw [Nat.ofDigitChars_cons] at hmax ⊢
      have hfirst := le_ofDigitChars rest (10 * value + (c.toNat - '0'.toNat))
      rw [readDigits, toDigit_of_isDigit hc, Nat.mul_comm value 10]
      exact (if_pos (by omega)).trans (ih hrest hmax)

-- The number that digits stand for, after those that have been read.
def digitsValue (radix value : Nat) (digits : Str) : Nat :=
  digits.foldl (fun value c => value * radix + (toDigit c radix).getD 0) value

theorem le_digitsValue {radix : Nat} (hradix : 0 < radix) (digits : Str) (value : Nat) :
    value ≤ digitsValue radix value digits := by
  induction digits generalizing value with
  | nil => exact Nat.le_refl value
  | cons c rest ih =>
      have hstep : value ≤ value * radix := Nat.le_mul_of_pos_right value hradix
      have hmore := ih (value * radix + (toDigit c radix).getD 0)
      exact Nat.le_trans hstep (Nat.le_trans (Nat.le_add_right _ _) hmore)

theorem readDigits_eq_ok {radix max : Nat} (hradix : 0 < radix) {digits : Str} {value result : Nat}
    (hvalue : value ≤ max) :
    readDigits radix max value digits = .ok result ↔
      (∀ c ∈ digits, (toDigit c radix).isSome = true) ∧ digitsValue radix value digits = result ∧ result ≤ max := by
  induction digits generalizing value with
  | nil =>
      rw [readDigits, digitsValue, List.foldl_nil, Except.ok.injEq]
      constructor
      · rintro rfl
        exact ⟨nofun, rfl, hvalue⟩
      · exact fun h => h.2.1
  | cons c rest ih =>
      rw [readDigits]
      cases hdigit : toDigit c radix with
      | none =>
          constructor
          · rintro ⟨⟩
          · intro h
            have hc := h.1 c List.mem_cons_self
            rw [hdigit] at hc
            cases hc
      | some digit =>
          have hstep : digitsValue radix value (c :: rest) = digitsValue radix (value * radix + digit) rest := by
            rw [digitsValue, List.foldl_cons, hdigit]
            rfl
          show (if value * radix + digit ≤ max then _ else _) = _ ↔ _
          rw [hstep, List.forall_mem_cons]
          by_cases hmax : value * radix + digit ≤ max
          · rw [if_pos hmax, ih hmax, hdigit]
            simp
          · rw [if_neg hmax]
            constructor
            · rintro ⟨⟩
            · rintro ⟨_, hresult, hle⟩
              have hmore := le_digitsValue hradix rest (value * radix + digit)
              omega

theorem fromStrRadix_plus {radix max : Nat} {rest : Str} (hsome : rest ≠ []) :
    fromStrRadix radix max ('+' :: rest) = readDigits radix max 0 rest := by
  obtain ⟨c, more, rfl⟩ := List.exists_cons_of_ne_nil hsome
  rfl

theorem fromStrRadix_plain {radix max : Nat} {text : Str} (hsome : text ≠ []) (hplus : text.head? ≠ some '+') :
    fromStrRadix radix max text = readDigits radix max 0 text := by
  unfold fromStrRadix
  split
  · exact absurd rfl hsome
  · exact absurd rfl hplus
  · rw [readDigits]
    rfl
  · exact absurd rfl hplus
  · rfl

-- What is read as a number: digits, with a plus sign before them or not.
theorem fromStrRadix_eq_ok {radix max : Nat} (hradix : 0 < radix) {text : Str} {result : Nat} :
    fromStrRadix radix max text = .ok result ↔
      ∃ digits, (text = digits ∨ text = '+' :: digits) ∧ digits ≠ [] ∧
        (∀ c ∈ digits, (toDigit c radix).isSome = true) ∧ digitsValue radix 0 digits = result ∧ result ≤ max := by
  have hno : ∀ {digits : Str} {rest : Str}, digits = '+' :: rest →
      ¬∀ c ∈ digits, (toDigit c radix).isSome = true := by
    rintro _ rest rfl hdigits
    have hplus := hdigits '+' List.mem_cons_self
    cases hplus
  by_cases hplus : text.head? = some '+'
  · obtain ⟨rest, rfl⟩ := List.head?_eq_some_iff.mp hplus
    by_cases hsome : rest = []
    · subst hsome
      constructor
      · rintro ⟨⟩
      · rintro ⟨digits, rfl | he, hdigits, hall, _⟩
        · exact absurd hall (hno rfl)
        · exact absurd (List.cons.inj he).2.symm hdigits
    · rw [fromStrRadix_plus hsome, readDigits_eq_ok hradix (Nat.zero_le max)]
      constructor
      · exact fun h => ⟨rest, .inr rfl, hsome, h⟩
      · rintro ⟨digits, rfl | he, _, hall, h⟩
        · exact absurd hall (hno rfl)
        · rw [(List.cons.inj he).2]
          exact ⟨hall, h⟩
  · by_cases hsome : text = []
    · subst hsome
      constructor
      · rintro ⟨⟩
      · rintro ⟨digits, rfl | ⟨⟨⟩⟩, hdigits, _⟩
        exact absurd rfl hdigits
    · rw [fromStrRadix_plain hsome hplus, readDigits_eq_ok hradix (Nat.zero_le max)]
      constructor
      · exact fun h => ⟨text, .inl rfl, hsome, h⟩
      · rintro ⟨digits, rfl | rfl, _, h⟩
        · exact h
        · exact absurd rfl hplus

-- A number that was written in decimal is read back.
theorem fromStrRadix_toDigits {number max : Nat} (hmax : number ≤ max) :
    fromStrRadix 10 max (Nat.toDigits 10 number) = .ok number := by
  have hdigits : ∀ c ∈ Nat.toDigits 10 number, c.isDigit = true := fun c hc =>
    Nat.isDigit_of_mem_toDigits (by omega) (by omega) hc
  have hvalue : Nat.ofDigitChars 10 (Nat.toDigits 10 number) 0 = number :=
    Nat.ofDigitChars_toDigits (by omega) (by omega)
  have hread : readDigits 10 max 0 (Nat.toDigits 10 number) = .ok number := by
    rw [readDigits_eq hdigits (by omega), hvalue]
  have hsome : Nat.toDigits 10 number ≠ [] := Nat.toDigits_ne_nil
  obtain ⟨c, rest, hcons⟩ := List.exists_cons_of_ne_nil hsome
  rw [hcons] at hdigits hread ⊢
  have hc := hdigits c List.mem_cons_self
  unfold fromStrRadix
  split
  · rename_i heq
    cases heq
  · rename_i heq
    obtain ⟨rfl, _⟩ := List.cons.inj heq
    cases hc
  · rename_i heq
    obtain ⟨rfl, _⟩ := List.cons.inj heq
    cases hc
  · rename_i heq
    obtain ⟨rfl, _⟩ := List.cons.inj heq
    cases hc
  · exact hread

end Numbers

section Words

theorem head_splitOnP {α : Type} (p : α → Bool) (text : List α) :
    (text.splitOnP p).head? = some (text.takeWhile fun c => !p c) := by
  induction text with
  | nil => rfl
  | cons c rest ih =>
      rw [List.splitOnP_cons_eq_if_modifyHead, List.takeWhile_cons]
      by_cases hc : p c = true
      · simp [hc]
      · rw [if_neg hc, List.head?_modifyHead, ih]
        simp [hc]

-- The first word is what follows the white space at the beginning.
theorem head_splitWhitespace_eq_some {text word : Str} (hword : (splitWhitespace text).head? = some word) :
    (text.dropWhile isWhitespace).takeWhile (fun c => !isWhitespace c) = word := by
  induction text with
  | nil => cases hword
  | cons c rest ih =>
      rw [splitWhitespace, List.splitOnP_cons_eq_if_modifyHead] at hword
      by_cases hc : isWhitespace c = true
      · rw [if_pos hc] at hword
        rw [List.dropWhile_cons_of_pos hc]
        exact ih hword
      · obtain ⟨first, more, hsplit⟩ := List.exists_cons_of_ne_nil (List.splitOnP_ne_nil isWhitespace rest)
        have hfirst := head_splitOnP isWhitespace rest
        rw [hsplit, List.head?_cons] at hfirst
        rw [if_neg hc, hsplit, List.modifyHead_cons, List.filter_cons_of_pos rfl, List.head?_cons] at hword
        rw [List.dropWhile_cons_of_neg hc, ← Option.some.inj hword, Option.some.inj hfirst]
        simp [hc]

theorem head_splitWhitespace {word : Str} (hword : ∀ c ∈ word, isWhitespace c = false) (hsome : word ≠ [])
    (rest : Str) : (splitWhitespace (word ++ ' ' :: rest)).head? = some word := by
  have hspace : isWhitespace ' ' = true := by decide
  rw [splitWhitespace, List.splitOnP_append_cons_of_forall_mem hword ' ' hspace]
  simp [hsome]

theorem dropWhile_isWhitespace {value : Str} (hfirst : ∀ c, value.head? = some c → isWhitespace c = false) :
    value.dropWhile isWhitespace = value := by
  cases value with
  | nil => rfl
  | cons c rest =>
      have hc := hfirst c rfl
      rw [List.dropWhile_cons, hc]
      rfl

-- Nothing is taken from a text without white space at its ends.
theorem trim_eq_self {value : Str} (hfirst : ∀ c, value.head? = some c → isWhitespace c = false)
    (hlast : ∀ c, value.getLast? = some c → isWhitespace c = false) : trim value = value := by
  rw [trim, dropWhile_isWhitespace hfirst, dropWhile_isWhitespace, List.reverse_reverse]
  intro c hc
  rw [List.head?_reverse] at hc
  exact hlast c hc

theorem trim_of_forall {value : Str} (hfree : ∀ c ∈ value, isWhitespace c = false) : trim value = value :=
  trim_eq_self (fun c hc => hfree c (List.mem_of_head? hc)) (fun c hc => hfree c (List.mem_of_getLast? hc))

theorem isWhitespace_of_isDigit {c : Char} (hc : c.isDigit = true) : isWhitespace c = false := by
  have hrange : '0' ≤ c ∧ c ≤ '9' := by
    simpa [Char.isDigit, Char.le_def] using hc
  have hlow : 48 ≤ c.toNat := hrange.1
  have hhigh : c.toNat ≤ 57 := hrange.2
  simp [isWhitespace]
  omega

end Words

end Text
