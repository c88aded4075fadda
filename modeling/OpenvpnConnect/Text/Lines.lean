import OpenvpnConnect.Text

namespace Text

section Inclusive

theorem flatten_splitInclusive (text : Str) : (splitInclusive text).flatten = text := by
  induction text with
  | nil => rfl
  | cons c rest ih =>
      rw [splitInclusive]
      by_cases hc : c = '\n'
      · rw [if_pos hc, List.flatten_cons, ih]
        rfl
      · rw [if_neg hc]
        cases hsplit : splitInclusive rest with
        | nil =>
            rw [hsplit] at ih
            rw [← ih]
            rfl
        | cons first more =>
            rw [hsplit] at ih
            rw [← ih]
            rfl

-- Every piece but the last one ends with a line feed.
theorem getLast_of_mem_dropLast {text piece : Str} (hmem : piece ∈ (splitInclusive text).dropLast) :
    piece.getLast? = some '\n' := by
  induction text generalizing piece with
  | nil => cases hmem
  | cons c rest ih =>
      rw [splitInclusive] at hmem
      by_cases hc : c = '\n'
      · rw [if_pos hc] at hmem
        cases hsplit : splitInclusive rest with
        | nil =>
            rw [hsplit] at hmem
            cases hmem
        | cons first more =>
            rw [hsplit, List.dropLast_cons_cons, ← hsplit] at hmem
            rcases List.mem_cons.mp hmem with rfl | hmem
            · rw [hc]
              rfl
            · exact ih hmem
      · rw [if_neg hc] at hmem
        cases hsplit : splitInclusive rest with
        | nil =>
            rw [hsplit] at hmem
            cases hmem
        | cons first more =>
            rw [hsplit] at hmem ih
            cases more with
            | nil => cases hmem
            | cons second more =>
                rw [List.dropLast_cons_cons] at hmem ih
                rcases List.mem_cons.mp hmem with rfl | hmem
                · have hfirst := ih List.mem_cons_self
                  rw [List.getLast?_cons, hfirst]
                  rfl
                · exact ih (List.mem_cons_of_mem _ hmem)

-- A line that is closed is a piece of its own.
theorem splitInclusive_line {line : Str} (hline : '\n' ∉ line) (rest : Str) :
    splitInclusive (line ++ '\n' :: rest) = (line ++ ['\n']) :: splitInclusive rest := by
  induction line with
  | nil =>
      rw [List.nil_append, splitInclusive, if_pos rfl]
      rfl
  | cons c line ih =>
      obtain ⟨hc, hline⟩ := not_or.mp (mt List.mem_cons.mpr hline)
      rw [List.cons_append, splitInclusive, if_neg (Ne.symm hc), ih hline]
      rfl

-- The rows of a text: its lines with the line feeds that close them. Only the
-- last one may be open.
structure Rows (text : Str) (rows : List Str) : Prop where
  whole : rows.flatten = text
  nonempty : ∀ row ∈ rows, row ≠ []
  single : ∀ row ∈ rows, '\n' ∉ row.dropLast
  closed : ∀ row ∈ rows.dropLast, row.getLast? = some '\n'

theorem mem_splitInclusive {text piece : Str} (hmem : piece ∈ splitInclusive text) :
    piece ≠ [] ∧ '\n' ∉ piece.dropLast := by
  induction text generalizing piece with
  | nil => cases hmem
  | cons c rest ih =>
      rw [splitInclusive] at hmem
      by_cases hc : c = '\n'
      · rw [if_pos hc] at hmem
        rcases List.mem_cons.mp hmem with rfl | hmem
        · exact ⟨List.cons_ne_nil _ _, List.not_mem_nil⟩
        · exact ih hmem
      · rw [if_neg hc] at hmem
        cases hsplit : splitInclusive rest with
        | nil =>
            rw [hsplit] at hmem
            obtain rfl := List.mem_singleton.mp hmem
            exact ⟨List.cons_ne_nil _ _, List.not_mem_nil⟩
        | cons first more =>
            rw [hsplit] at hmem ih
            rcases List.mem_cons.mp hmem with rfl | hmem
            · obtain ⟨hsome, hfree⟩ := ih List.mem_cons_self
              rw [List.dropLast_cons_of_ne_nil hsome]
              exact ⟨List.cons_ne_nil _ _, not_or.mpr ⟨Ne.symm hc, hfree⟩ ∘ List.mem_cons.mp⟩
            · exact ih (List.mem_cons_of_mem _ hmem)

theorem rows_splitInclusive (text : Str) : Rows text (splitInclusive text) where
  whole := flatten_splitInclusive text
  nonempty := fun _ hmem => (mem_splitInclusive hmem).1
  single := fun _ hmem => (mem_splitInclusive hmem).2
  closed := fun _ hmem => getLast_of_mem_dropLast hmem

end Inclusive

section Chomp

def LF : Str := ['\n']

def CRLF : Str := ['\r', '\n']

-- What chomp takes from a piece.
def terminator (piece : Str) : Str := piece.drop (chomp piece).length

theorem chomp_crlf (line : Str) : chomp (line ++ CRLF) = line := by
  simp [chomp, CRLF]

theorem chomp_lf {line : Str} (hline : line.getLast? ≠ some '\r') : chomp (line ++ LF) = line := by
  have hhead : line.reverse.head? ≠ some '\r' := by
    rw [List.head?_reverse]
    exact hline
  simp only [chomp, LF, List.reverse_append, List.reverse_singleton, List.singleton_append]
  cases hreverse : line.reverse with
  | nil => simp_all
  | cons last before =>
      rw [hreverse] at hhead
      have hback : line = (last :: before).reverse := by rw [← hreverse, List.reverse_reverse]
      split
      · rename_i heq
        simp_all
      · rename_i heq
        simp_all
      · rename_i hno
        exact (hno (last :: before) rfl).elim

theorem chomp_open {line : Str} (hline : line.getLast? ≠ some '\n') : chomp line = line := by
  have hhead : line.reverse.head? ≠ some '\n' := by
    rw [List.head?_reverse]
    exact hline
  unfold chomp
  split
  · rename_i heq
    rw [heq] at hhead
    exact absurd rfl hhead
  · rename_i heq
    rw [heq] at hhead
    exact absurd rfl hhead
  · rfl

-- The three kinds of pieces.
theorem piece_cases (piece : Str) :
    (piece.getLast? ≠ some '\n' ∧ terminator piece = [] ∧ chomp piece = piece) ∨
      (terminator piece = LF ∧ piece = chomp piece ++ LF) ∨
      (terminator piece = CRLF ∧ piece = chomp piece ++ CRLF) := by
  by_cases hlast : piece.getLast? = some '\n'
  · obtain ⟨line, rfl⟩ := List.getLast?_eq_some_iff.mp hlast
    right
    by_cases hcr : line.getLast? = some '\r'
    · obtain ⟨before, rfl⟩ := List.getLast?_eq_some_iff.mp hcr
      right
      have hpiece : before ++ ['\r'] ++ ['\n'] = before ++ CRLF := by simp [CRLF]
      rw [hpiece, terminator, chomp_crlf, List.drop_left]
      exact ⟨rfl, rfl⟩
    · left
      have hpiece : line ++ ['\n'] = line ++ LF := rfl
      rw [hpiece, terminator, chomp_lf hcr, List.drop_left]
      exact ⟨rfl, rfl⟩
  · left
    refine ⟨hlast, ?_, chomp_open hlast⟩
    rw [terminator, chomp_open hlast, List.drop_length]

theorem chomp_append_terminator (piece : Str) : chomp piece ++ terminator piece = piece := by
  rcases piece_cases piece with ⟨_, hopen, hchomp⟩ | ⟨hlf, hpiece⟩ | ⟨hcrlf, hpiece⟩
  · rw [hopen, hchomp, List.append_nil]
  · rw [hlf, ← hpiece]
  · rw [hcrlf, ← hpiece]

theorem eq_of_chomp_of_terminator {first second : Str} (hchomp : chomp first = chomp second)
    (hterminator : terminator first = terminator second) : first = second := by
  rw [← chomp_append_terminator first, hchomp, hterminator, chomp_append_terminator]

end Chomp

section Unlines

-- The text of closed lines.
def unlines (texts : List Str) : Str := texts.flatMap (· ++ LF)

-- A closed line as it is read back, without a CR at its end.
def readBack (line : Str) : Str := chomp (line ++ LF)

theorem readBack_cr (line : Str) : readBack (line ++ ['\r']) = line := by
  have hcrlf : line ++ ['\r'] ++ LF = line ++ CRLF := by simp [LF, CRLF]
  rw [readBack, hcrlf, chomp_crlf]

theorem readBack_of_ne {line : Str} (hline : line.getLast? ≠ some '\r') : readBack line = line := chomp_lf hline

theorem readBack_append {start : Str} (hstart : start.getLast? ≠ some '\r') (rest : Str) :
    readBack (start ++ rest) = start ++ readBack rest := by
  by_cases hrest : rest.getLast? = some '\r'
  · obtain ⟨before, rfl⟩ := List.getLast?_eq_some_iff.mp hrest
    rw [← List.append_assoc, readBack_cr, readBack_cr]
  · have hwhole : (start ++ rest).getLast? ≠ some '\r' := by
      cases rest with
      | nil => rwa [List.append_nil]
      | cons c more => rwa [List.getLast?_append_of_ne_nil _ (List.cons_ne_nil c more)]
    rw [readBack_of_ne hrest, readBack_of_ne hwhole]

theorem readBack_cons {c : Char} (hc : c ≠ '\r') (rest : Str) : readBack (c :: rest) = c :: readBack rest := by
  have hlast : [c].getLast? ≠ some '\r' := by
    simpa using hc
  exact readBack_append hlast rest

-- What is before the terminator is chomped apart.
theorem chomp_cons {c : Char} (hlf : c ≠ '\n') (hcr : c ≠ '\r') (rest : Str) :
    chomp (c :: rest) = c :: chomp rest := by
  by_cases hlast : rest.getLast? = some '\n'
  · obtain ⟨line, rfl⟩ := List.getLast?_eq_some_iff.mp hlast
    exact readBack_cons hcr line
  · have hwhole : (c :: rest).getLast? ≠ some '\n' := by
      cases rest with
      | nil => simpa using hlf
      | cons second more => rwa [List.getLast?_cons_cons]
    rw [chomp_open hlast, chomp_open hwhole]

-- A row without its terminator has no line feed.
theorem chomp_free {row : Str} (hsingle : '\n' ∉ row.dropLast) : '\n' ∉ chomp row := by
  rcases piece_cases row with ⟨hopen, _, hchomp⟩ | ⟨_, hrow⟩ | ⟨_, hrow⟩
  · rw [hchomp]
    intro hmem
    have hsome := List.ne_nil_of_mem hmem
    rw [← List.dropLast_append_getLast hsome] at hmem
    rcases List.mem_append.mp hmem with hmem | hmem
    · exact hsingle hmem
    · rw [List.getLast?_eq_some_getLast hsome, List.mem_singleton.mp hmem] at hopen
      exact hopen rfl
  · rwa [hrow, LF, List.dropLast_concat] at hsingle
  · have hcrlf : row = chomp row ++ ['\r'] ++ ['\n'] := by
      rw [List.append_assoc]
      exact hrow
    rw [hcrlf, List.dropLast_concat] at hsingle
    exact fun hmem => hsingle (List.mem_append_left _ hmem)

theorem chomp_chomp {row : Str} (hsingle : '\n' ∉ row.dropLast) : chomp (chomp row) = chomp row :=
  chomp_open fun hlast => chomp_free hsingle (List.mem_of_getLast? hlast)

theorem mem_readBack {line : Str} {c : Char} (hmem : c ∈ readBack line) : c ∈ line := by
  by_cases hline : line.getLast? = some '\r'
  · obtain ⟨before, rfl⟩ := List.getLast?_eq_some_iff.mp hline
    rw [readBack_cr] at hmem
    exact List.mem_append_left _ hmem
  · rwa [readBack_of_ne hline] at hmem

theorem length_readBack_le (line : Str) : (readBack line).length ≤ line.length := by
  by_cases hline : line.getLast? = some '\r'
  · obtain ⟨before, rfl⟩ := List.getLast?_eq_some_iff.mp hline
    rw [readBack_cr, List.length_append]
    omega
  · exact Nat.le_of_eq (congrArg List.length (readBack_of_ne hline))

theorem length_readBack_lt {line : Str} (hline : line.getLast? = some '\r') :
    (readBack line).length < line.length := by
  obtain ⟨before, rfl⟩ := List.getLast?_eq_some_iff.mp hline
  rw [readBack_cr, List.length_append, List.length_singleton]
  omega

variable {texts : List Str}

theorem splitInclusive_unlines (hfree : ∀ line ∈ texts, '\n' ∉ line) :
    splitInclusive (unlines texts) = texts.map (· ++ LF) := by
  induction texts with
  | nil => rfl
  | cons line rest ih =>
      obtain ⟨hline, hrest⟩ := List.forall_mem_cons.mp hfree
      have hcons : unlines (line :: rest) = line ++ '\n' :: unlines rest := by
        simp [unlines, LF]
      rw [hcons, splitInclusive_line hline, ih hrest]
      rfl

theorem lines_unlines (hfree : ∀ line ∈ texts, '\n' ∉ line) : lines (unlines texts) = texts.map readBack := by
  rw [lines, splitInclusive_unlines hfree, List.map_map]
  rfl

theorem unlines_inj {others : List Str} (hfree : ∀ line ∈ texts, '\n' ∉ line)
    (hothers : ∀ line ∈ others, '\n' ∉ line) (he : unlines texts = unlines others) : texts = others := by
  have hpieces := congrArg splitInclusive he
  rw [splitInclusive_unlines hfree, splitInclusive_unlines hothers] at hpieces
  exact List.map_injective_iff.mpr (fun _ _ h => List.append_cancel_right h) hpieces

theorem getLast_unlines (hsome : texts ≠ []) : (unlines texts).getLast? = some '\n' := by
  rw [← List.dropLast_append_getLast hsome]
  simp [unlines, LF]

theorem count_unlines (hfree : ∀ line ∈ texts, '\n' ∉ line) : (unlines texts).count '\n' = texts.length := by
  induction texts with
  | nil => rfl
  | cons line rest ih =>
      obtain ⟨hline, hrest⟩ := List.forall_mem_cons.mp hfree
      have hcons : unlines (line :: rest) = line ++ '\n' :: unlines rest := by
        simp [unlines, LF]
      rw [hcons, List.count_append, List.count_cons_self, List.count_eq_zero.mpr hline, ih hrest, Nat.zero_add]
      rfl

end Unlines

end Text
