import OpenvpnConnect.Patch.Hunks
import OpenvpnConnect.Patch.Unified
import OpenvpnConnect.Text.Lemmas
import Mathlib.Data.List.Chain
import Mathlib.Data.List.TakeWhile

-- The hunks of a section, byte for byte.
namespace OpenvpnConnect.Patch

open Text

-- The first number in a text.
def firstNumber (text : Str) : Nat :=
  Nat.ofDigitChars 10 ((text.dropWhile fun c => !c.isDigit).takeWhile Char.isDigit) 0

-- A hunk as it stands in a section. The lines are rows of the two files: they
-- have their terminators.
structure SectionHunk where
  header : Str
  body : List DiffLine
deriving DecidableEq, Repr

-- Where a hunk begins, counted from zero.
def SectionHunk.position (hunk : SectionHunk) : Nat := firstNumber hunk.header - 1

def SectionHunk.old (hunk : SectionHunk) : List Str :=
  (hunk.body.filter (·.mark ≠ .Addition)).map DiffLine.text

def SectionHunk.new (hunk : SectionHunk) : List Str :=
  (hunk.body.filter (·.mark ≠ .Deletion)).map DiffLine.text

def markOf : Char → Option Mark
  | ' ' => some .Context
  | '-' => some .Deletion
  | '+' => some .Addition
  | _ => none

def isNoNewline (row : Str) : Bool := chomp row == "\\ No newline at end of file".toList

-- What is behind the mark, without its terminator where the next row says so.
def readRow (row : Str) (next : Option Str) : Option DiffLine :=
  match row with
  | [] => none
  | c :: text => (markOf c).map fun mark => ⟨mark, if next.any isNoNewline then chomp text else text⟩

-- The rows up to the end of the present hunk, and the hunks after it.
def sectionHunks : List Str → List DiffLine × List SectionHunk
  | [] => ([], [])
  | row :: rest =>
      let (body, hunks) := sectionHunks rest
      if "@@ ".toList.isPrefixOf row then ([], ⟨row, body⟩ :: hunks)
      else if isNoNewline row then (body, hunks)
      else
        match readRow row rest.head? with
        | some line => (line :: body, hunks)
        | none => ([], hunks)

section Numbers

theorem firstNumber_append {before digits after : Str} (hbefore : ∀ c ∈ before, c.isDigit = false)
    (hsome : digits ≠ []) (hdigits : ∀ c ∈ digits, c.isDigit = true)
    (hafter : ∀ c, after.head? = some c → c.isDigit = false) :
    firstNumber (before ++ digits ++ after) = Nat.ofDigitChars 10 digits 0 := by
  obtain ⟨first, more, rfl⟩ := List.exists_cons_of_ne_nil hsome
  have hfirst := hdigits first List.mem_cons_self
  have hdrop : (before ++ (first :: more) ++ after).dropWhile (fun c => !c.isDigit) =
      (first :: more) ++ after := by
    rw [List.append_assoc, List.dropWhile_append_of_pos fun c hmem => by rw [hbefore c hmem]; rfl,
      List.cons_append, List.dropWhile_cons_of_neg (by rw [hfirst]; decide)]
  have htake : ((first :: more) ++ after).takeWhile Char.isDigit = first :: more := by
    have hnone : after.takeWhile Char.isDigit = [] := by
      cases after with
      | nil => rfl
      | cons c rest => rw [List.takeWhile_cons_of_neg (by rw [hafter c rfl]; decide)]
    rw [List.takeWhile_append_of_pos hdigits, hnone, List.append_nil]
  rw [firstNumber, hdrop, htake]

theorem isDigit_of_toDigit {c : Char} (hdigit : (toDigit c 10).isSome = true) : c.isDigit = true := by
  unfold toDigit at hdigit
  by_cases hten : '0' ≤ c ∧ c ≤ '9'
  · simpa [Char.isDigit, Char.le_def] using hten
  · exfalso
    rw [if_neg hten] at hdigit
    have hhigh : ∀ {start : Nat}, (Option.filter (· < 10) (some (start + 10))).isSome = true → False := by
      intro start hsome
      have hbig : ¬(start + 10 < 10) := by omega
      have hnone : Option.filter (· < 10) (some (start + 10)) = none :=
        Option.filter_some_neg (decide_eq_false hbig)
      rw [hnone] at hsome
      cases hsome
    by_cases hlower : 'a' ≤ c ∧ c ≤ 'z'
    · rw [if_pos hlower] at hdigit
      exact hhigh hdigit
    · rw [if_neg hlower] at hdigit
      by_cases hupper : 'A' ≤ c ∧ c ≤ 'Z'
      · rw [if_pos hupper] at hdigit
        exact hhigh hdigit
      · rw [if_neg hupper] at hdigit
        cases hdigit

theorem digitsValue_eq {digits : Str} (hdigits : ∀ c ∈ digits, c.isDigit = true) (value : Nat) :
    digitsValue 10 value digits = Nat.ofDigitChars 10 digits value := by
  induction digits generalizing value with
  | nil => exact Nat.ofDigitChars_nil.symm
  | cons c rest ih =>
      obtain ⟨hc, hrest⟩ := List.forall_mem_cons.mp hdigits
      rw [Nat.ofDigitChars_cons, ← ih hrest, digitsValue, List.foldl_cons, toDigit_of_isDigit hc, Nat.mul_comm]
      rfl

theorem oldHunkStart_eq_ok {header : Str} {start : Nat} (hstart : oldHunkStart header = .ok start) :
    ∃ word range digits, (splitWhitespace header).head? = some word ∧ stripPrefix ['-'] word = some range ∧
      (range.splitOn ',').head? = some digits ∧ fromStrRadix 10 (2 ^ 64 - 1) digits = .ok start := by
  unfold oldHunkStart at hstart
  dsimp only at hstart
  split at hstart
  · rename_i found hfound
    obtain rfl := Except.ok.inj hstart
    simp only [Option.bind_eq_bind, Option.bind_eq_some_iff] at hfound
    obtain ⟨word, hword, range, hrange, digits, hdigits, hnumber⟩ := hfound
    refine ⟨word, range, digits, hword, hrange, hdigits, ?_⟩
    cases hresult : fromStrRadix 10 (2 ^ 64 - 1) digits with
    | error error =>
        rw [hresult] at hnumber
        cases hnumber
    | ok value =>
        rw [hresult] at hnumber
        rw [Option.some.inj hnumber]
  · cases hstart

-- The start of the old range is the first number of a header.
theorem oldHunkStart_firstNumber {header : Str} {start : Nat} (hstart : oldHunkStart header = .ok start)
    {before after : Str} (hbefore : ∀ c ∈ before, c.isDigit = false)
    (hafter : ∀ c, after.head? = some c → c.isDigit = false) :
    firstNumber (before ++ header ++ after) = start := by
  obtain ⟨word, range, digits, hword, hrange, hdigits, hnumber⟩ := oldHunkStart_eq_ok hstart
  -- blanks, the first word with its dash, and digits up to a comma or the end of the word
  have hheader : header = header.takeWhile isWhitespace ++
      (word ++ (header.dropWhile isWhitespace).dropWhile fun c => !isWhitespace c) := by
    rw [← head_splitWhitespace_eq_some hword, List.takeWhile_append_dropWhile, List.takeWhile_append_dropWhile]
  have hblank : ∀ c, isWhitespace c = true → c.isDigit = false := by
    intro c hc
    by_contra hdigit
    rw [isWhitespace_of_isDigit (Bool.not_eq_false _ |>.mp hdigit)] at hc
    cases hc
  have hsplit : range = digits ++ range.dropWhile fun c => !(c == ',') := by
    have hfirst := head_splitOnP (· == ',') range
    rw [List.splitOn] at hdigits
    rw [hdigits] at hfirst
    rw [Option.some.inj hfirst, List.takeWhile_append_dropWhile]
  obtain ⟨number, hsign, hsome, hall, hvalue, -⟩ := (fromStrRadix_eq_ok (by omega)).mp hnumber
  have hall : ∀ c ∈ number, c.isDigit = true := fun c hmem => isDigit_of_toDigit (hall c hmem)
  obtain ⟨sign, hsigned, hunsigned⟩ : ∃ sign, digits = sign ++ number ∧ ∀ c ∈ sign, c.isDigit = false := by
    rcases hsign with rfl | rfl
    · exact ⟨[], rfl, nofun⟩
    · exact ⟨['+'], rfl, fun c hmem => by rw [List.mem_singleton.mp hmem]; rfl⟩
  have hwhole : before ++ header ++ after =
      (before ++ header.takeWhile isWhitespace ++ '-' :: sign) ++ number ++
        ((range.dropWhile fun c => !(c == ',')) ++
          ((header.dropWhile isWhitespace).dropWhile (fun c => !isWhitespace c) ++ after)) := by
    rw [stripPrefix_eq_some] at hrange
    conv_lhs => rw [hheader, hrange, hsplit, hsigned]
    simp
  rw [hwhole, firstNumber_append ?_ hsome hall ?_, ← digitsValue_eq hall, hvalue]
  · intro c hmem
    rcases List.mem_append.mp hmem with hmem | hmem
    · rcases List.mem_append.mp hmem with hmem | hmem
      · exact hbefore c hmem
      · exact hblank c (List.mem_takeWhile_imp hmem)
    · rcases List.mem_cons.mp hmem with rfl | hmem
      · rfl
      · exact hunsigned c hmem
  · intro c hfirst
    have hcomma := List.head?_dropWhile_not (fun c => !(c == ',')) range
    have hspace := List.head?_dropWhile_not (fun c => !isWhitespace c) (header.dropWhile isWhitespace)
    cases hrangeRest : range.dropWhile fun c => !(c == ',') with
    | cons d more =>
        rw [hrangeRest] at hfirst hcomma
        obtain rfl := Option.some.inj hfirst
        have hd : d = ',' := by simpa using hcomma
        rw [hd]
        rfl
    | nil =>
        rw [hrangeRest, List.nil_append] at hfirst
        cases hwordRest : (header.dropWhile isWhitespace).dropWhile fun c => !isWhitespace c with
        | cons d more =>
            rw [hwordRest] at hfirst hspace
            obtain rfl := Option.some.inj hfirst
            exact hblank d (by simpa using hspace)
        | nil =>
            rw [hwordRest, List.nil_append] at hfirst
            exact hafter c hfirst

end Numbers

section Reading

theorem toNat_markOf {c : Char} {mark : Mark} (hmark : markOf c = some mark) :
    c ≠ '\n' ∧ c ≠ '\r' ∧ c.toNat < 128 := by
  unfold markOf at hmark
  split at hmark
  · exact ⟨by decide, by decide, by decide⟩
  · exact ⟨by decide, by decide, by decide⟩
  · exact ⟨by decide, by decide, by decide⟩
  · cases hmark

-- What a line of a hunk is of the diff.
def HunkLine.written : HunkLine → Option DiffLine
  | .Context text => some ⟨.Context, text⟩
  | .Deletion text => some ⟨.Deletion, text⟩
  | .Addition text => some ⟨.Addition, text⟩
  | _ => none

def DiffLine.chomped (line : DiffLine) : DiffLine := { line with text := chomp line.text }

theorem oldLines_written (body : List HunkLine) :
    oldLines body = ((body.filterMap HunkLine.written).filter (·.mark ≠ .Addition)).map DiffLine.text := by
  induction body with
  | nil => rfl
  | cons line rest ih =>
      cases line with
      | Context text | Deletion text => exact congrArg (text :: ·) ih
      | Addition text | NoNewline | Broken panic => exact ih

theorem newLines_written (body : List HunkLine) :
    newLines body = ((body.filterMap HunkLine.written).filter (·.mark ≠ .Deletion)).map DiffLine.text := by
  induction body with
  | nil => rfl
  | cons line rest ih =>
      cases line with
      | Context text | Addition text => exact congrArg (text :: ·) ih
      | Deletion text | NoNewline | Broken panic => exact ih

-- A hunk as it is read and as it stands in the section.
structure Same (read : Hunk) (own : SectionHunk) : Prop where
  header : own.header = "@@ ".toList ++ read.header ++ terminator own.header
  body : read.body.filterMap HunkLine.written = own.body.map DiffLine.chomped

theorem isPrefixOf_header {row : Str} :
    "@@ ".toList.isPrefixOf row = true ↔ ∃ header, stripPrefix "@@ ".toList (chomp row) = some header := by
  constructor
  · intro hheader
    obtain ⟨rest, rfl⟩ := List.isPrefixOf_iff_prefix.mp hheader
    have hchomp : chomp ("@@ ".toList ++ rest) = "@@ ".toList ++ chomp rest := by
      show chomp ('@' :: '@' :: ' ' :: rest) = '@' :: '@' :: ' ' :: chomp rest
      rw [chomp_cons (by decide) (by decide), chomp_cons (by decide) (by decide),
        chomp_cons (by decide) (by decide)]
    exact ⟨chomp rest, by rw [hchomp, stripPrefix_append]⟩
  · intro ⟨header, hheader⟩
    rw [stripPrefix_eq_some] at hheader
    apply List.isPrefixOf_iff_prefix.mpr
    rw [← chomp_append_terminator row, hheader, List.append_assoc]
    exact List.prefix_append _ _

def Mark.line (text : Str) : Mark → HunkLine
  | .Context => .Context text
  | .Deletion => .Deletion text
  | .Addition => .Addition text

theorem readLine_cons {c : Char} {text : Str} (hnone : c :: text ≠ NO_NEWLINE) (hc : c.toNat < 128) :
    readLine (c :: text) = (markOf c).map (Mark.line text) := by
  rw [readLine, if_neg hnone, splitAtOne, if_pos hc]
  show (if c = ' ' then _ else if c = '-' then _ else if c = '+' then _ else _) = _
  by_cases hcontext : c = ' '
  · rw [hcontext]
    rfl
  by_cases hdeletion : c = '-'
  · rw [hdeletion]
    rfl
  by_cases haddition : c = '+'
  · rw [haddition]
    rfl
  have hother : markOf c = none := by
    unfold markOf
    split <;> first | rfl | contradiction
  rw [if_neg hcontext, if_neg hdeletion, if_neg haddition, hother]
  rfl

theorem isNoNewline_iff {row : Str} : isNoNewline row = true ↔ chomp row = NO_NEWLINE := by
  rw [isNoNewline, beq_iff_eq]
  rfl

-- A row whose line is read without a panic is taken for the same.
theorem readLine_row {row : Str} (hnone : isNoNewline row = false) (hsingle : '\n' ∉ row.dropLast)
    (hsound : ∀ line ∈ readLine (chomp row), line.Sound) (next : Option Str) :
    (readLine (chomp row) = none ∧ readRow row next = none) ∨
      ∃ line own, readLine (chomp row) = some line ∧ readRow row next = some own ∧
        line.written = some own.chomped := by
  have hline : chomp row ≠ NO_NEWLINE := by
    rw [Ne, ← isNoNewline_iff, hnone]
    decide
  have hbytes := chomp_append_terminator row
  cases hchomp : chomp row with
  | nil =>
      rw [hchomp] at hsound
      exact absurd rfl (hsound (.Broken .NotCharBoundary) rfl .NotCharBoundary)
  | cons c text =>
      rw [hchomp] at hsound hline hbytes
      obtain ⟨whole, rfl⟩ : ∃ whole, row = c :: whole := ⟨_, hbytes.symm⟩
      by_cases hc : c.toNat < 128
      · rw [readLine_cons hline hc]
        cases hmark : markOf c with
        | none => exact .inl ⟨rfl, by rw [readRow, hmark]; rfl⟩
        | some mark =>
            obtain ⟨hlf, hcr, -⟩ := toNat_markOf hmark
            obtain ⟨-, rfl⟩ := List.cons.inj ((chomp_cons hlf hcr whole).symm.trans hchomp)
            have hsingle : '\n' ∉ whole.dropLast := by
              intro hmem
              rw [List.dropLast_cons_of_ne_nil (List.ne_nil_of_mem (List.dropLast_subset _ hmem))] at hsingle
              exact hsingle (List.mem_cons_of_mem c hmem)
            refine .inr ⟨_, _, rfl, by rw [readRow, hmark]; rfl, ?_⟩
            have htext : chomp (if next.any isNoNewline then chomp whole else whole) = chomp whole := by
              split
              · exact chomp_chomp hsingle
              · rfl
            rw [DiffLine.chomped, htext]
            cases mark <;> rfl
      · have hbroken : readLine (c :: text) = some (.Broken .NotCharBoundary) := by
          rw [readLine, if_neg hline, splitAtOne, if_neg hc]
        exact absurd rfl (hsound (.Broken .NotCharBoundary) hbroken .NotCharBoundary)

section Equations

variable {row : Str} {rest : List Str}

theorem sectionHunks_header (hheader : "@@ ".toList.isPrefixOf row = true) :
    sectionHunks (row :: rest) = ([], ⟨row, (sectionHunks rest).1⟩ :: (sectionHunks rest).2) := if_pos hheader

theorem sectionHunks_noNewline (hheader : ¬"@@ ".toList.isPrefixOf row = true) (hopen : isNoNewline row = true) :
    sectionHunks (row :: rest) = sectionHunks rest := (if_neg hheader).trans (if_pos hopen)

theorem sectionHunks_line (hheader : ¬"@@ ".toList.isPrefixOf row = true) (hopen : ¬isNoNewline row = true) :
    sectionHunks (row :: rest) =
      ((readRow row rest.head?).elim [] (· :: (sectionHunks rest).1), (sectionHunks rest).2) := by
  refine (if_neg hheader).trans ((if_neg hopen).trans ?_)
  cases readRow row rest.head? <;> rfl

end Equations

-- What is read of the lines of a section is what stands in it, where no line of
-- a hunk makes the code panic.
theorem readHunks_rows {rows : List Str} (hsingle : ∀ row ∈ rows, '\n' ∉ row.dropLast) :
    ((∀ line ∈ (readHunks (rows.map chomp)).1, line.Sound) →
        (readHunks (rows.map chomp)).1.filterMap HunkLine.written =
          (sectionHunks rows).1.map DiffLine.chomped) ∧
      ((∀ hunk ∈ (readHunks (rows.map chomp)).2, ∀ line ∈ hunk.body, line.Sound) →
        List.Forall₂ Same (readHunks (rows.map chomp)).2 (sectionHunks rows).2) := by
  induction rows with
  | nil => exact ⟨fun _ => rfl, fun _ => .nil⟩
  | cons row rest ih =>
      obtain ⟨hrow, hrest⟩ := List.forall_mem_cons.mp hsingle
      obtain ⟨hbody, hhunks⟩ := ih hrest
      rw [List.map_cons]
      cases hheader : stripPrefix "@@ ".toList (chomp row) with
      | some header =>
          have hread : readHunks (chomp row :: rest.map chomp) =
              ([], ⟨header, (readHunks (rest.map chomp)).1⟩ :: (readHunks (rest.map chomp)).2) := by
            rw [readHunks, hheader]
          rw [hread, sectionHunks_header (isPrefixOf_header.mpr ⟨header, hheader⟩)]
          refine ⟨fun _ => rfl, fun hsound => ?_⟩
          obtain ⟨hfirst, hothers⟩ := List.forall_mem_cons.mp hsound
          refine .cons ⟨?_, hbody hfirst⟩ (hhunks hothers)
          rw [← stripPrefix_eq_some.mp hheader, chomp_append_terminator]
      | none =>
          have hread : readHunks (chomp row :: rest.map chomp) =
              ((readLine (chomp row)).elim [] (· :: (readHunks (rest.map chomp)).1),
                (readHunks (rest.map chomp)).2) := by
            rw [readHunks, hheader]
            cases readLine (chomp row) <;> rfl
          have hno : ¬"@@ ".toList.isPrefixOf row = true := by
            intro hyes
            obtain ⟨header, hsome⟩ := isPrefixOf_header.mp hyes
            rw [hheader] at hsome
            cases hsome
          by_cases hopen : isNoNewline row = true
          · have hline : readLine (chomp row) = some .NoNewline := by
              rw [isNoNewline_iff.mp hopen, readLine, if_pos rfl]
            rw [hread, sectionHunks_noNewline hno hopen, hline]
            exact ⟨fun hsound => hbody (List.forall_mem_cons.mp hsound).2, hhunks⟩
          · rw [hread, sectionHunks_line hno hopen]
            refine ⟨fun hsound => ?_, hhunks⟩
            have hline : ∀ line ∈ readLine (chomp row), line.Sound := by
              intro line hmem
              rw [Option.mem_def.mp hmem] at hsound
              exact hsound line List.mem_cons_self
            rcases readLine_row (Bool.eq_false_iff.mpr hopen) hrow hline rest.head? with
              ⟨hcode, hrow⟩ | ⟨line, own, hcode, hrow, hwritten⟩
            · rw [hcode, hrow]
              rfl
            · rw [hcode] at hsound
              rw [hcode, hrow]
              show (line :: _).filterMap HunkLine.written = own.chomped :: _
              rw [List.filterMap_cons_some hwritten, hbody (List.forall_mem_cons.mp hsound).2]

-- The lines in a section end with their row.
theorem single_sectionHunks {rows : List Str} (hsingle : ∀ row ∈ rows, '\n' ∉ row.dropLast) :
    (∀ line ∈ (sectionHunks rows).1, '\n' ∉ line.text.dropLast) ∧
      ∀ hunk ∈ (sectionHunks rows).2, ∀ line ∈ hunk.body, '\n' ∉ line.text.dropLast := by
  induction rows with
  | nil => exact ⟨nofun, nofun⟩
  | cons row rest ih =>
      obtain ⟨hrow, hrest⟩ := List.forall_mem_cons.mp hsingle
      obtain ⟨hbody, hhunks⟩ := ih hrest
      by_cases hheader : "@@ ".toList.isPrefixOf row = true
      · rw [sectionHunks_header hheader]
        exact ⟨nofun, List.forall_mem_cons.mpr ⟨hbody, hhunks⟩⟩
      by_cases hopen : isNoNewline row = true
      · rw [sectionHunks_noNewline hheader hopen]
        exact ⟨hbody, hhunks⟩
      rw [sectionHunks_line hheader hopen]
      refine ⟨?_, hhunks⟩
      cases hline : readRow row rest.head? with
      | none => exact nofun
      | some line =>
          refine List.forall_mem_cons.mpr ⟨?_, hbody⟩
          cases row with
          | nil => cases hline
          | cons c text =>
              obtain ⟨mark, -, rfl⟩ := Option.map_eq_some_iff.mp hline
              have htext : '\n' ∉ text.dropLast := by
                intro hmem
                rw [List.dropLast_cons_of_ne_nil (List.ne_nil_of_mem (List.dropLast_subset _ hmem))] at hrow
                exact hrow (List.mem_cons_of_mem c hmem)
              show '\n' ∉ (if rest.head?.any isNoNewline then chomp text else text).dropLast
              split
              · intro hmem
                have hchomped := chomp_free htext
                exact hchomped (List.dropLast_subset _ hmem)
              · exact htext

end Reading

end OpenvpnConnect.Patch
