import OpenvpnConnect.Patch.Hunks
import OpenvpnConnect.Patch.Unified
import OpenvpnConnect.Text.Lemmas

-- What is read of the section of a file.
namespace OpenvpnConnect.Patch

open Text

-- A hunk header after its first marker, as it is read.
def DiffHunk.ranges (hunk : DiffHunk) : Str :=
  '-' :: hunk.oldRange ++ " +".toList ++ hunk.newRange ++ " @@".toList ++ readBack hunk.title

def DiffLine.read (line : DiffLine) : HunkLine :=
  match line.mark with
  | .Context => .Context (readBack line.text)
  | .Deletion => .Deletion (readBack line.text)
  | .Addition => .Addition (readBack line.text)

def DiffHunk.read (hunk : DiffHunk) : Hunk := ⟨hunk.ranges, hunk.body.map DiffLine.read⟩

section Ranges

variable {start count : Nat} {range : Str}

theorem isDigit_of_mem_toDigits {c : Char} (hmem : c ∈ Nat.toDigits 10 start) : c.isDigit = true :=
  Nat.isDigit_of_mem_toDigits (by omega) (by omega) hmem

theorem WritesRange.mem {c : Char} (hrange : WritesRange start count range) (hmem : c ∈ range) :
    c.isDigit = true ∨ c = ',' := by
  rcases hrange with rfl | ⟨_, rfl⟩
  · rcases List.mem_append.mp hmem with hmem | hmem
    · exact .inl (isDigit_of_mem_toDigits hmem)
    · rcases List.mem_cons.mp hmem with rfl | hmem
      · exact .inr rfl
      · exact .inl (isDigit_of_mem_toDigits hmem)
  · exact .inl (isDigit_of_mem_toDigits hmem)

theorem WritesRange.free (hrange : WritesRange start count range) : '\n' ∉ range := by
  intro hmem
  rcases hrange.mem hmem with h | h <;> cases h

theorem WritesRange.start_eq (hrange : WritesRange start count range) :
    (range.splitOn ',').head? = some (Nat.toDigits 10 start) := by
  have hfree : ',' ∉ Nat.toDigits 10 start := by
    intro hmem
    cases isDigit_of_mem_toDigits hmem
  rcases hrange with rfl | ⟨_, rfl⟩
  · rw [List.splitOn_append_cons_self_of_not_mem hfree, List.head?_cons]
  · rw [List.splitOn_eq_singleton hfree, List.head?_cons]

-- The start of the old range is found in the header.
theorem oldHunkStart_ranges {hunk : DiffHunk} (hrange : WritesRange hunk.oldStart count hunk.oldRange)
    (hstart : hunk.oldStart < 2 ^ 64) : oldHunkStart hunk.ranges = .ok hunk.oldStart := by
  have hword : ∀ c ∈ '-' :: hunk.oldRange, isWhitespace c = false := by
    intro c hmem
    rcases List.mem_cons.mp hmem with rfl | hmem
    · decide
    · rcases hrange.mem hmem with hdigit | rfl
      · exact isWhitespace_of_isDigit hdigit
      · decide
  have hfirst : (splitWhitespace hunk.ranges).head? = some ('-' :: hunk.oldRange) := by
    have hranges : hunk.ranges =
        ('-' :: hunk.oldRange) ++ ' ' :: ('+' :: hunk.newRange ++ " @@".toList ++ readBack hunk.title) := by
      simp [DiffHunk.ranges]
    rw [hranges]
    exact head_splitWhitespace hword (List.cons_ne_nil _ _) _
  have hdash : stripPrefix ['-'] ('-' :: hunk.oldRange) = some hunk.oldRange :=
    stripPrefix_append ['-'] hunk.oldRange
  have hnumber : fromStrRadix 10 (2 ^ 64 - 1) (Nat.toDigits 10 hunk.oldStart) = .ok hunk.oldStart :=
    fromStrRadix_toDigits (by omega)
  simp only [oldHunkStart, hfirst, Option.bind_eq_bind, Option.bind_some, hdash, hrange.start_eq, hnumber,
    Except.toOption]

end Ranges

section Lines

theorem DiffHunk.header_eq (hunk : DiffHunk) : hunk.header =
    "@@ -".toList ++ hunk.oldRange ++ " +".toList ++ hunk.newRange ++ " @@".toList ++ hunk.title := rfl

theorem readBack_header (hunk : DiffHunk) : readBack hunk.header = "@@ ".toList ++ hunk.ranges := by
  have hlast : ("@@ -".toList ++ hunk.oldRange ++ " +".toList ++ hunk.newRange ++ " @@".toList).getLast? ≠
      some '\r' := by
    rw [List.getLast?_append_of_ne_nil _ (by decide)]
    decide
  rw [DiffHunk.header_eq, readBack_append hlast]
  simp [DiffHunk.ranges]

theorem readBack_render (line : DiffLine) : readBack line.render = line.mark.char :: readBack line.text := by
  apply readBack_cons
  cases line.mark <;> decide

theorem readLine_render (line : DiffLine) : readLine (readBack line.render) = some line.read := by
  obtain ⟨mark, text⟩ := line
  have hne : mark.char :: readBack text ≠ NO_NEWLINE := by
    intro he
    obtain ⟨hmark, _⟩ := List.cons.inj he
    revert hmark
    cases mark <;> decide
  rw [readBack_render, readLine, if_neg hne]
  cases mark <;> rfl

variable {rest : List Str}

-- A line that no hunk begins with is passed over.
theorem readHunks_skip {c : Char} (hc : c ≠ '@') (text : Str) :
    (readHunks ((c :: text) :: rest)).2 = (readHunks rest).2 := by
  have hheader : stripPrefix "@@ ".toList (c :: text) = none := stripPrefix_of_ne (Ne.symm hc) _ _
  rw [readHunks, hheader]
  cases readLine (c :: text) <;> rfl

theorem readHunks_body (body : List DiffLine) :
    readHunks (body.map (fun line => readBack line.render) ++ rest) =
      (body.map DiffLine.read ++ (readHunks rest).1, (readHunks rest).2) := by
  induction body with
  | nil => rfl
  | cons line body ih =>
      have hheader : stripPrefix "@@ ".toList (readBack line.render) = none := by
        rw [readBack_render]
        apply stripPrefix_of_ne
        cases line.mark <;> decide
      rw [List.map_cons, List.cons_append, readHunks, ih, hheader]
      simp only [readLine_render]
      rfl

-- The hunks that were written are the ones that are read.
theorem readHunks_render (hunks : List DiffHunk) :
    readHunks ((hunks.flatMap DiffHunk.render).map readBack) = ([], hunks.map DiffHunk.read) := by
  induction hunks with
  | nil => rfl
  | cons hunk rest ih =>
      have hlines : ((hunk :: rest).flatMap DiffHunk.render).map readBack = ("@@ ".toList ++ hunk.ranges) ::
          (hunk.body.map (fun line => readBack line.render) ++ (rest.flatMap DiffHunk.render).map readBack) := by
        rw [← readBack_header]
        simp [DiffHunk.render]
      rw [hlines, readHunks, readHunks_body, ih, stripPrefix_append]
      simp [DiffHunk.read]

end Lines

section Texts

theorem oldLines_read (hunk : DiffHunk) : oldLines hunk.read.body = hunk.old.map readBack := by
  show (hunk.body.map DiffLine.read).filterMap HunkLine.old = _
  rw [DiffHunk.old]
  induction hunk.body with
  | nil => rfl
  | cons line rest ih =>
      obtain ⟨mark, text⟩ := line
      cases mark with
      | Context | Deletion => exact congrArg (readBack text :: ·) ih
      | Addition => exact ih

theorem newLines_read (hunk : DiffHunk) : newLines hunk.read.body = hunk.new.map readBack := by
  show (hunk.body.map DiffLine.read).filterMap HunkLine.new = _
  rw [DiffHunk.new]
  induction hunk.body with
  | nil => rfl
  | cons line rest ih =>
      obtain ⟨mark, text⟩ := line
      cases mark with
      | Context | Addition => exact congrArg (readBack text :: ·) ih
      | Deletion => exact ih

theorem sound_read (hunk : DiffHunk) : ∀ line ∈ hunk.read.body, line.Sound := by
  intro line hmem panic
  obtain ⟨⟨mark, text⟩, _, rfl⟩ := List.mem_map.mp hmem
  cases mark <;> exact nofun

end Texts

section Whole

-- Every hunk is written for some place within the files.
theorem Describes.mem {oldBefore newBefore : Nat} {hunks : List DiffHunk} {old new : List Str}
    (hdescribes : Describes oldBefore newBefore hunks old new) {hunk : DiffHunk} (hmem : hunk ∈ hunks) :
    ∃ i j, hunk.At i j ∧ oldBefore ≤ i ∧ i + hunk.old.length ≤ oldBefore + old.length ∧ hunk.old ⊆ old ∧
      hunk.new ⊆ new := by
  induction hunks generalizing oldBefore newBefore old new with
  | nil => cases hmem
  | cons first rest ih =>
      obtain ⟨kept, oldRest, newRest, rfl, rfl, hat, hrest⟩ := hdescribes
      rcases List.mem_cons.mp hmem with rfl | hmem
      · refine ⟨_, _, hat, ?_, ?_, ?_, ?_⟩
        · omega
        · simp only [List.length_append]
          omega
        · exact fun text htext => List.mem_append_left _ (List.mem_append_right _ htext)
        · exact fun text htext => List.mem_append_left _ (List.mem_append_right _ htext)
      · obtain ⟨i, j, hat, hi, hlength, hold, hnew⟩ := ih hrest hmem
        refine ⟨i, j, hat, ?_, ?_, ?_, ?_⟩
        · omega
        · simp only [List.length_append]
          omega
        · exact fun text htext => List.mem_append_right _ (hold htext)
        · exact fun text htext => List.mem_append_right _ (hnew htext)

theorem DiffHunk.mem_old_or_new {hunk : DiffHunk} {line : DiffLine} (hmem : line ∈ hunk.body) :
    line.text ∈ hunk.old ∨ line.text ∈ hunk.new := by
  by_cases hmark : line.mark = .Addition
  · right
    have hne : line.mark ≠ .Deletion := by
      rw [hmark]
      decide
    exact List.mem_map_of_mem (List.mem_filter.mpr ⟨hmem, by simpa using hne⟩)
  · left
    exact List.mem_map_of_mem (List.mem_filter.mpr ⟨hmem, by simpa using hmark⟩)

variable {names : GitNames} {file : FileDiff}

-- Each line before the destination is closed, and neither a header nor a destination.
structure Opening (line : Str) : Prop where
  free : '\n' ∉ line
  first : ∃ c rest, line = c :: rest ∧ c ≠ '\r' ∧ c ≠ '@' ∧ c ≠ '+'

theorem opening_preamble (hfile : file.WellFormed) {line : Str} (hmem : line ∈ file.preamble names) :
    Opening line := by
  rcases List.mem_append.mp hmem with hmem | hmem
  · rcases List.mem_append.mp hmem with hmem | hmem
    · obtain rfl := List.mem_singleton.mp hmem
      refine ⟨names.both_closed file.path, ?_⟩
      rcases names.both_first file.path with hfirst | hfirst
      · obtain ⟨rest, hrest⟩ := List.head?_eq_some_iff.mp hfirst
        exact ⟨'a', rest, hrest, by decide, by decide, by decide⟩
      · obtain ⟨rest, hrest⟩ := List.head?_eq_some_iff.mp hfirst
        exact ⟨'"', rest, hrest, by decide, by decide, by decide⟩
    · obtain ⟨hclosed, keyword, hkeyword, rest, rfl⟩ := hfile.extended line hmem
      refine ⟨hclosed, ?_⟩
      simp only [List.mem_cons, List.not_mem_nil, or_false] at hkeyword
      rcases hkeyword with rfl | rfl | rfl
      · exact ⟨'i', _, rfl, by decide, by decide, by decide⟩
      · exact ⟨'o', _, rfl, by decide, by decide, by decide⟩
      · exact ⟨'n', _, rfl, by decide, by decide, by decide⟩
  · obtain rfl := List.mem_singleton.mp hmem
    have hclosed := names.source_closed file.path
    exact ⟨by simp [hclosed], '-', _, rfl, by decide, by decide, by decide⟩

theorem free_render (hfile : file.WellFormed) {line : Str} (hmem : line ∈ file.hunks.flatMap DiffHunk.render) :
    '\n' ∉ line := by
  obtain ⟨hunk, hhunk, hline⟩ := List.mem_flatMap.mp hmem
  obtain ⟨_, _, hat, _, _, hold, hnew⟩ := hfile.describes.mem hhunk
  rcases List.mem_cons.mp hline with rfl | hline
  · have htitle := hfile.titles hunk hhunk
    have holdRange := hat.oldRange.free
    have hnewRange := hat.newRange.free
    simp [DiffHunk.header_eq, htitle, holdRange, hnewRange]
  · obtain ⟨written, hwritten, rfl⟩ := List.mem_map.mp hline
    have htext : '\n' ∉ written.text := by
      rcases DiffHunk.mem_old_or_new hwritten with hmem | hmem
      · exact hfile.before _ (hold hmem)
      · exact hfile.after _ (hnew hmem)
    intro hmem
    rcases List.mem_cons.mp hmem with hmark | hmem
    · revert hmark
      cases written.mark <;> decide
    · exact htext hmem

theorem lines_section (hfile : file.WellFormed) (hplain : names.Plain file.path) :
    lines (file.section names) = (file.preamble names).map readBack ++ ("+++ b/".toList ++ file.path) ::
      (file.hunks.flatMap DiffHunk.render).map readBack := by
  have hdestination : "+++ ".toList ++ names.destination file.path = "+++ b/".toList ++ file.path := by
    rw [hplain]
    rfl
  have hfree : '\n' ∉ "+++ b/".toList ++ file.path := by
    have hname := names.destination_closed file.path
    rw [← hdestination]
    simp [hname]
  have hclosed : ∀ line ∈ file.preamble names ++ ["+++ b/".toList ++ file.path] ++
      file.hunks.flatMap DiffHunk.render, '\n' ∉ line := by
    intro line hmem
    rcases List.mem_append.mp hmem with hmem | hmem
    · rcases List.mem_append.mp hmem with hmem | hmem
      · exact (opening_preamble hfile hmem).free
      · obtain rfl := List.mem_singleton.mp hmem
        exact hfree
    · exact free_render hfile hmem
  have hread : readBack ("+++ b/".toList ++ file.path) = "+++ b/".toList ++ file.path := by
    have hpath : readBack file.path = file.path := by
      apply readBack_of_ne
      intro hlast
      have hcontrol := names.control _ hplain _ (List.mem_of_getLast? hlast)
      revert hcontrol
      decide
    rw [readBack_append (by decide), hpath]
  rw [FileDiff.section, hdestination, lines_unlines hclosed, List.map_append, List.map_append, List.map_singleton,
    hread, List.append_assoc, List.singleton_append]

theorem destination_section (hfile : file.WellFormed) (hplain : names.Plain file.path) :
    destination (file.section names) = some file.path := by
  have hpreamble : ((file.preamble names).map readBack).findSome? (stripPrefix "+++ b/".toList) = none := by
    rw [List.findSome?_eq_none_iff]
    intro line hmem
    obtain ⟨written, hwritten, rfl⟩ := List.mem_map.mp hmem
    obtain ⟨c, rest, rfl, hcr, _, hplus⟩ := (opening_preamble hfile hwritten).first
    rw [readBack_cons hcr]
    exact stripPrefix_of_ne (Ne.symm hplus) _ _
  rw [destination, lines_section hfile hplain, List.findSome?_append, hpreamble, Option.none_or,
    List.findSome?_cons, stripPrefix_append]

theorem hunksOf_section (hfile : file.WellFormed) (hplain : names.Plain file.path) :
    hunksOf (file.section names) = file.hunks.map DiffHunk.read := by
  have hpreamble : ∀ skipped rest : List Str, (∀ line ∈ skipped, Opening line) →
      (readHunks (skipped.map readBack ++ rest)).2 = (readHunks rest).2 := by
    intro skipped rest hskipped
    induction skipped with
    | nil => rfl
    | cons line skipped ih =>
        obtain ⟨hline, hrest⟩ := List.forall_mem_cons.mp hskipped
        obtain ⟨c, text, rfl, hcr, hat, _⟩ := hline.first
        rw [List.map_cons, List.cons_append, readBack_cons hcr, readHunks_skip hat]
        exact ih hrest
  have hdestination : ∀ rest, (readHunks (("+++ b/".toList ++ file.path) :: rest)).2 = (readHunks rest).2 :=
    fun rest => readHunks_skip (by decide) _
  rw [hunksOf, lines_section hfile hplain, hpreamble _ _ fun line hmem => opening_preamble hfile hmem,
    hdestination, readHunks_render]

end Whole

end OpenvpnConnect.Patch
