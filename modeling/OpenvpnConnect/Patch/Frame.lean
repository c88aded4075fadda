import OpenvpnConnect.Patch.Rows

namespace OpenvpnConnect.Patch

open Text

-- What a hunk makes of the rows from its position on: context stays as it is in
-- the source.
def patchedBody : List DiffLine → List Str → List Str
  | ⟨.Context, _⟩ :: body, row :: rest => row :: patchedBody body rest
  | ⟨.Deletion, _⟩ :: body, _ :: rest => patchedBody body rest
  | ⟨.Addition, text⟩ :: body, rest => text :: patchedBody body rest
  | _, _ => []

-- The source with the hunks' deleted rows removed and their added rows inserted.
def patchedRows (source : List Str) : Nat → List SectionHunk → List Str
  | cursor, [] => source.drop cursor
  | cursor, hunk :: rest =>
      (source.drop cursor).take (hunk.position - cursor) ++ patchedBody hunk.body (source.drop hunk.position) ++
        patchedRows source (hunk.position + hunk.old.length) rest

-- Each hunk begins where the one before it has ended or later, and its context and
-- deleted lines are those of the source at its position, up to their terminators.
structure Follows (source : List Str) (hunks : List SectionHunk) : Prop where
  order : hunks.IsChain fun hunk next => hunk.position + hunk.old.length ≤ next.position
  room : ∀ hunk ∈ hunks, hunk.position ≤ source.length
  lines : ∀ hunk ∈ hunks, hunk.old.map chomp <+: (source.drop hunk.position).map chomp

-- The hunks are strictly one after the other, their context and deleted rows are
-- the source's, byte for byte, and the rows of the output are those of the source
-- with the hunks' exchanged.
structure Exact (output : Str) (rows : List Str) (hunks : List SectionHunk) : Prop where
  order : hunks.IsChain fun hunk next =>
    hunk.position < next.position ∧ hunk.position + hunk.old.length ≤ next.position
  old : ∀ hunk ∈ hunks, hunk.old <+: rows.drop hunk.position
  patched : Rows output (patchedRows rows 0 hunks)

-- Every row but the last ends in LF, without a CR before it, and the last one too
-- exactly if the source ends in LF.
def Closed (final : Bool) (rows : List Str) : Prop :=
  (∀ row ∈ rows.dropLast, terminator row = LF) ∧
    match rows.getLast? with
    | none => final = false
    | some last => last ≠ [] ∧ terminator last = if final then LF else []

-- No two hunks in a row have one position, the context and deleted rows end as
-- those of the source do, and so do the rows of the patched file.
structure Regular (source : Str) (rows : List Str) (hunks : List SectionHunk) : Prop where
  apart : hunks.IsChain fun hunk next => hunk.position ≠ next.position
  ends : ∀ hunk ∈ hunks, hunk.old.map terminator <+: (rows.drop hunk.position).map terminator
  closed : Closed (source.getLast? == some '\n') (patchedRows rows 0 hunks)

section Join

theorem terminator_of_closed {row : Str} (hclosed : row.getLast? = some '\n') :
    terminator row = LF ∨ terminator row = CRLF := by
  rcases piece_cases row with ⟨hopen, _⟩ | ⟨hlf, _⟩ | ⟨hcrlf, _⟩
  · exact absurd hclosed hopen
  · exact .inl hlf
  · exact .inr hcrlf

theorem closed_of_terminator {row : Str} (hlf : terminator row = LF) : row.getLast? = some '\n' := by
  rw [← chomp_append_terminator row, hlf, LF, List.getLast?_append_of_ne_nil _ (List.cons_ne_nil _ _)]
  rfl

-- Joined lines are rows only where these end as they are joined.
theorem joinLines_eq_iff {rows : List Str} (hsome : ∀ row ∈ rows, row ≠ [])
    (hclosed : ∀ row ∈ rows.dropLast, row.getLast? = some '\n') (final : Bool) :
    joinLines (rows.map chomp) final = rows.flatten ↔ Closed final rows := by
  induction rows with
  | nil => cases final <;> simp [joinLines, List.intercalate, Closed]
  | cons row rest ih =>
      cases rest with
      | nil =>
          have hjoin : joinLines ([row].map chomp) final = chomp row ++ if final then LF else [] := by
            simp [joinLines, List.intercalate, LF]
          have hrow : [row].flatten = chomp row ++ terminator row := by
            rw [chomp_append_terminator, List.flatten_singleton]
          rw [hjoin, hrow, List.append_right_inj]
          constructor
          · intro he
            exact ⟨by simp, hsome row List.mem_cons_self, he.symm⟩
          · intro h
            exact h.2.2.symm
      | cons second more =>
          have hrest := ih (fun other hmem => hsome other (List.mem_cons_of_mem _ hmem))
            (fun other hmem => hclosed other (List.mem_cons_of_mem _ hmem))
          have hjoin : joinLines ((row :: second :: more).map chomp) final =
              chomp row ++ (LF ++ joinLines ((second :: more).map chomp) final) := by
            rw [List.map_cons, List.map_cons, joinLines_cons, List.append_assoc]
          have hrow : (row :: second :: more).flatten =
              chomp row ++ (terminator row ++ (second :: more).flatten) := by
            rw [List.flatten_cons, ← List.append_assoc, chomp_append_terminator]
          have hcons : Closed final (row :: second :: more) ↔
              terminator row = LF ∧ Closed final (second :: more) := by
            rw [Closed, Closed, List.dropLast_cons_cons, List.forall_mem_cons, List.getLast?_cons_cons, and_assoc]
          rw [hjoin, hrow, List.append_right_inj, hcons]
          rcases terminator_of_closed (hclosed row List.mem_cons_self) with hlf | hcrlf
          · rw [hlf, List.append_right_inj, hrest]
            exact (and_iff_right rfl).symm
          · rw [hcrlf]
            constructor
            · intro he
              cases he
            · intro h
              cases h.1

theorem Closed.rows {final : Bool} {rows : List Str} (hclosed : Closed final rows) :
    (∀ row ∈ rows, row ≠ []) ∧ ∀ row ∈ rows.dropLast, row.getLast? = some '\n' := by
  obtain ⟨hbefore, hlast⟩ := hclosed
  have hrows : ∀ row ∈ rows.dropLast, row.getLast? = some '\n' := fun row hmem =>
    closed_of_terminator (hbefore row hmem)
  refine ⟨fun row hmem => ?_, hrows⟩
  have hsome := List.ne_nil_of_mem hmem
  rw [← List.dropLast_append_getLast hsome] at hmem
  rcases List.mem_append.mp hmem with hmem | hmem
  · intro hnone
    have hend := hrows row hmem
    rw [hnone] at hend
    cases hend
  · rw [List.getLast?_eq_some_getLast hsome] at hlast
    rw [List.mem_singleton.mp hmem]
    exact hlast.1

-- The output has these rows exactly where they are closed as it is.
theorem rows_joinLines_iff {rows : List Str} (hsingle : ∀ row ∈ rows, '\n' ∉ row.dropLast) (final : Bool) :
    Rows (joinLines (rows.map chomp) final) rows ↔ Closed final rows := by
  constructor
  · intro hrows
    exact (joinLines_eq_iff hrows.nonempty hrows.closed final).mp hrows.whole.symm
  · intro hclosed
    obtain ⟨hsome, hends⟩ := hclosed.rows
    exact ⟨((joinLines_eq_iff hsome hends final).mpr hclosed).symm, hsome, hsingle, hends⟩

end Join

section Patched

variable {path : Str} {source : List Str}

theorem patchedBody_lines {body : List DiffLine}
    (hmatch : ((body.filter (·.mark ≠ .Addition)).map DiffLine.text).map chomp <+: source.map chomp) :
    (patchedBody body source).map chomp =
      ((body.filter (·.mark ≠ .Deletion)).map DiffLine.text).map chomp := by
  induction body generalizing source with
  | nil => rfl
  | cons line rest ih =>
      obtain ⟨mark, text⟩ := line
      cases mark with
      | Addition => exact congrArg (chomp text :: ·) (ih hmatch)
      | Context =>
          cases source with
          | nil => exact absurd (List.prefix_nil.mp hmatch) (List.cons_ne_nil _ _)
          | cons row more =>
              obtain ⟨htext, hmore⟩ := List.cons_prefix_cons.mp hmatch
              show chomp row :: _ = chomp text :: _
              rw [ih hmore, htext]
      | Deletion =>
          cases source with
          | nil => exact absurd (List.prefix_nil.mp hmatch) (List.cons_ne_nil _ _)
          | cons row more => exact ih (List.cons_prefix_cons.mp hmatch).2

theorem single_patchedBody {body : List DiffLine} (hbody : ∀ line ∈ body, '\n' ∉ line.text.dropLast)
    (hsource : ∀ row ∈ source, '\n' ∉ row.dropLast) : ∀ row ∈ patchedBody body source, '\n' ∉ row.dropLast := by
  induction body generalizing source with
  | nil => exact nofun
  | cons line rest ih =>
      obtain ⟨hline, hrest⟩ := List.forall_mem_cons.mp hbody
      obtain ⟨mark, text⟩ := line
      cases mark with
      | Addition => exact List.forall_mem_cons.mpr ⟨hline, ih hrest hsource⟩
      | Context =>
          cases source with
          | nil => exact nofun
          | cons row more =>
              obtain ⟨hrow, hmore⟩ := List.forall_mem_cons.mp hsource
              exact List.forall_mem_cons.mpr ⟨hrow, ih hrest hmore⟩
      | Deletion =>
          cases source with
          | nil => exact nofun
          | cons row more => exact ih hrest (List.forall_mem_cons.mp hsource).2

theorem single_patchedRows {hunks : List SectionHunk} (cursor : Nat)
    (hhunks : ∀ hunk ∈ hunks, ∀ line ∈ hunk.body, '\n' ∉ line.text.dropLast)
    (hsource : ∀ row ∈ source, '\n' ∉ row.dropLast) :
    ∀ row ∈ patchedRows source cursor hunks, '\n' ∉ row.dropLast := by
  induction hunks generalizing cursor with
  | nil => exact fun row hmem => hsource row (List.mem_of_mem_drop hmem)
  | cons hunk rest ih =>
      obtain ⟨hhunk, hrest⟩ := List.forall_mem_cons.mp hhunks
      intro row hmem
      rcases List.mem_append.mp hmem with hmem | hmem
      · rcases List.mem_append.mp hmem with hmem | hmem
        · exact hsource row (List.mem_of_mem_drop (List.mem_of_mem_take hmem))
        · exact single_patchedBody hhunk (fun other hother => hsource other (List.mem_of_mem_drop hother)) row hmem
      · exact ih _ hrest row hmem

theorem Same.old_eq {read : Hunk} {own : SectionHunk} (hsame : Same read own) :
    oldLines read.body = own.old.map chomp := by
  rw [oldLines_written, hsame.body, SectionHunk.old]
  rw [List.filter_map, List.map_map, List.map_map]
  rfl

theorem Same.new_eq {read : Hunk} {own : SectionHunk} (hsame : Same read own) :
    newLines read.body = own.new.map chomp := by
  rw [newLines_written, hsame.body, SectionHunk.new]
  rw [List.filter_map, List.map_map, List.map_map]
  rfl

theorem Same.position_eq {read : Hunk} {own : SectionHunk} (hsame : Same read own) {start : Nat}
    (hstart : oldHunkStart read.header = .ok start) : own.position = start - 1 := by
  have hmark : ∀ c ∈ "@@ ".toList, c.isDigit = false := by
    have hall : "@@ ".toList.all (fun c => !c.isDigit) = true := rfl
    intro c hmem
    simpa only [Bool.not_eq_true'] using List.all_eq_true.mp hall c hmem
  rw [SectionHunk.position, hsame.header, oldHunkStart_firstNumber hstart hmark]
  intro c hfirst
  rcases piece_cases own.header with ⟨_, hopen, _⟩ | ⟨hlf, _⟩ | ⟨hcrlf, _⟩
  · rw [hopen] at hfirst
    cases hfirst
  · rw [hlf] at hfirst
    rw [← Option.some.inj hfirst]
    rfl
  · rw [hcrlf] at hfirst
    rw [← Option.some.inj hfirst]
    rfl

-- What the hunks leave is what they should, line by line.
theorem applyHunks_rows {hunks : List Hunk} {own : List SectionHunk} (hsame : List.Forall₂ Same hunks own)
    {s after : Patching} (hcursor : s.cursor ≤ source.length)
    (hok : applyHunks path (source.map chomp) s hunks = .ok after) :
    (∀ hunk ∈ own.head?, s.cursor ≤ hunk.position) ∧ Follows source own ∧
      after.output ++ (source.map chomp).drop after.cursor =
        s.output ++ (patchedRows source s.cursor own).map chomp := by
  induction hsame generalizing s with
  | nil =>
      obtain rfl := Except.ok.inj hok
      refine ⟨nofun, ⟨.nil, nofun, nofun⟩, ?_⟩
      rw [patchedRows, List.map_drop]
  | @cons hunk first rest others hfirst hrest ih =>
      rw [applyHunks, List.foldlM_cons, bind_eq_ok] at hok
      obtain ⟨applied, happlied, hok⟩ := hok
      rw [applyHunk, bind_eq_ok] at happlied
      obtain ⟨started, hstarted, hbody⟩ := happlied
      obtain ⟨start, hstart, hle, hroom, rfl⟩ := startHunk_ok.mp hstarted
      obtain ⟨-, hmatch, rfl⟩ := applyBody_ok.mp hbody
      rw [← hfirst.position_eq hstart, List.length_map] at hroom
      rw [← hfirst.position_eq hstart] at hle hmatch hok
      rw [hfirst.old_eq] at hmatch hok
      rw [hfirst.new_eq, List.length_map] at hok
      have hlength : first.old.length ≤ source.length - first.position := by
        simpa using hmatch.length_le
      obtain ⟨hnext, hfollows, houtput⟩ := ih (by show first.position + _ ≤ _; omega) hok
      rw [← List.map_drop] at hmatch
      refine ⟨?_, ⟨List.isChain_cons.mpr ⟨hnext, hfollows.order⟩, List.forall_mem_cons.mpr ⟨hroom, hfollows.room⟩,
        List.forall_mem_cons.mpr ⟨hmatch, hfollows.lines⟩⟩, ?_⟩
      · rintro _ ⟨⟩
        exact hle
      · rw [houtput, patchedRows, List.map_append, List.map_append, patchedBody_lines hmatch, List.map_take,
          List.map_drop]
        simp only [List.append_assoc]
        rfl

-- The hunks that go through have no line that makes the code panic.
theorem sound_of_applyHunks {hunks : List Hunk} {original : List Str} {s after : Patching}
    (hok : applyHunks path original s hunks = .ok after) : ∀ hunk ∈ hunks, ∀ line ∈ hunk.body, line.Sound := by
  induction hunks generalizing s with
  | nil => exact nofun
  | cons hunk rest ih =>
      rw [applyHunks, List.foldlM_cons, bind_eq_ok] at hok
      obtain ⟨applied, happlied, hrest⟩ := hok
      rw [applyHunk, bind_eq_ok] at happlied
      obtain ⟨started, -, hbody⟩ := happlied
      exact List.forall_mem_cons.mpr ⟨(applyBody_ok.mp hbody).1, ih hrest⟩

theorem isChain_and {α : Type} {first second : α → α → Prop} {items : List α} :
    (items.IsChain fun a b => first a b ∧ second a b) ↔ items.IsChain first ∧ items.IsChain second := by
  induction items with
  | nil => exact ⟨fun _ => ⟨.nil, .nil⟩, fun _ => .nil⟩
  | cons item rest ih =>
      simp only [List.isChain_cons, ih]
      exact ⟨fun ⟨hhead, hfirst, hsecond⟩ =>
          ⟨⟨fun next hmem => (hhead next hmem).1, hfirst⟩, fun next hmem => (hhead next hmem).2, hsecond⟩,
        fun ⟨⟨hone, hfirst⟩, hother, hsecond⟩ =>
          ⟨fun next hmem => ⟨hone next hmem, hother next hmem⟩, hfirst, hsecond⟩⟩

-- Rows are the same where they are without their terminators and these are.
theorem prefix_iff {first second : List Str} :
    first <+: second ↔ first.map chomp <+: second.map chomp ∧
      first.map terminator <+: second.map terminator := by
  constructor
  · intro hfront
    exact ⟨hfront.map chomp, hfront.map terminator⟩
  · induction first generalizing second with
    | nil => exact fun _ => List.nil_prefix
    | cons row rest ih =>
        intro ⟨hchomps, hterminators⟩
        cases second with
        | nil => exact absurd (List.prefix_nil.mp hchomps) (List.cons_ne_nil _ _)
        | cons other more =>
            obtain ⟨hchomp, hchomps⟩ := List.cons_prefix_cons.mp hchomps
            obtain ⟨hterminator, hterminators⟩ := List.cons_prefix_cons.mp hterminators
            exact List.cons_prefix_cons.mpr
              ⟨eq_of_chomp_of_terminator hchomp hterminator, ih ⟨hchomps, hterminators⟩⟩

-- Hunks that follow are exact where the input is regular.
theorem Follows.exact_iff {text : Str} {hunks : List SectionHunk} (hfollows : Follows source hunks)
    (hsingle : ∀ row ∈ patchedRows source 0 hunks, '\n' ∉ row.dropLast) :
    Exact (joinLines ((patchedRows source 0 hunks).map chomp) (text.getLast? == some '\n')) source hunks ↔
      Regular text source hunks := by
  constructor
  · intro hexact
    obtain ⟨hstrict, -⟩ := isChain_and.mp hexact.order
    exact ⟨hstrict.imp fun _ _ hlt => Nat.ne_of_lt hlt, fun hunk hmem => (prefix_iff.mp (hexact.old hunk hmem)).2,
      (rows_joinLines_iff hsingle _).mp hexact.patched⟩
  · intro hregular
    refine ⟨?_, fun hunk hmem => prefix_iff.mpr ⟨hfollows.lines hunk hmem, hregular.ends hunk hmem⟩,
      (rows_joinLines_iff hsingle _).mpr hregular.closed⟩
    refine (isChain_and.mpr ⟨hregular.apart, hfollows.order⟩).imp fun hunk next ⟨hne, hle⟩ => ⟨?_, hle⟩
    omega

-- Where a section is applied, its hunks match the lines of the source, one after the
-- other, and they are exact, byte for byte, if and only if the input is regular.
theorem apply_file_patch_exact {tree after : Tree} {patchSection : Str}
    (hok : applyFilePatch tree patchSection = .ok after) : ∃ path source output rows sectionRows,
    destination patchSection = some path ∧ tree path = some source ∧
      after = Function.update tree path (some output) ∧ Rows source rows ∧ Rows patchSection sectionRows ∧
      Follows rows (sectionHunks sectionRows).2 ∧
      (Exact output rows (sectionHunks sectionRows).2 ↔ Regular source rows (sectionHunks sectionRows).2) := by
  unfold applyFilePatch at hok
  cases hpath : destination patchSection with
  | none =>
      rw [hpath] at hok
      cases hok
  | some path =>
      rw [hpath] at hok
      cases hsource : tree path with
      | none =>
          simp only [hsource] at hok
          cases hok
      | some source =>
          simp only [hsource, bind_eq_ok] at hok
          obtain ⟨output, hpatched, hafter⟩ := hok
          simp only [patchText, bind_eq_ok] at hpatched
          obtain ⟨last, hlines, houtput⟩ := hpatched
          rw [patchLines_eq] at hlines
          have hrows := rows_splitInclusive source
          have hsection := rows_splitInclusive patchSection
          -- a line that makes the code panic is in no hunk, as the hunks go through
          have hsound : ∀ hunk ∈ hunksOf patchSection, ∀ line ∈ hunk.body, line.Sound :=
            sound_of_applyHunks hlines
          have hsame := (readHunks_rows hsection.single).2 hsound
          obtain ⟨-, hfollows, hpieces⟩ := applyHunks_rows hsame (Nat.zero_le _) hlines
          have hsingle := single_patchedRows 0 (single_sectionHunks hsection.single).2 hrows.single
          refine ⟨path, source, output, _, _, rfl, hsource, (Except.ok.inj hafter).symm, hrows, hsection,
            hfollows, ?_⟩
          rw [← hfollows.exact_iff hsingle, ← Except.ok.inj houtput]
          show Exact (joinLines (last.output ++ ((splitInclusive source).map chomp).drop last.cursor) _) _ _ ↔ _
          rw [hpieces]
          rfl

end Patched

section Terminators

def oneFile (source : String) : Tree := Function.update (fun _ => none) "f".toList (some source.toList)

def sectionOf (hunks : String) : Str := ("a/f b/f\n--- a/f\n+++ b/f\n" ++ hunks).toList

-- The first line of f is exchanged.
def firstLine : Str := sectionOf "@@ -1 +1 @@\n-a\n+c\n"

theorem apply_file_patch_exact_lf : ∃ path source output rows sectionRows,
    destination firstLine = some path ∧ oneFile "a\nb\n" path = some source ∧
      Function.update (oneFile "a\nb\n") "f".toList (some "c\nb\n".toList) =
        Function.update (oneFile "a\nb\n") path (some output) ∧
      Rows source rows ∧ Rows firstLine sectionRows ∧ Follows rows (sectionHunks sectionRows).2 ∧
      (Exact output rows (sectionHunks sectionRows).2 ↔ Regular source rows (sectionHunks sectionRows).2) := by
  have hok : applyFilePatch (oneFile "a\nb\n") firstLine =
      .ok (Function.update (oneFile "a\nb\n") "f".toList (some "c\nb\n".toList)) := by rfl
  exact apply_file_patch_exact hok

-- The file that a section makes of a source is not exact.
def Inexact (source : String) (patchSection : Str) (output : String) : Prop :=
  (applyFilePatch (oneFile source) patchSection).map (· "f".toList) = .ok (some output.toList) ∧
    ¬Exact output.toList (splitInclusive source.toList) (sectionHunks (splitInclusive patchSection)).2

-- A line that no hunk covers loses its CR, and so does an added one; a line is
-- deleted that has a CR which the section does not; two hunks have one position.
theorem terminator_lost :
    Inexact "a\nb\r\n" firstLine "c\nb\n" ∧
      Inexact "a\nb\n" (sectionOf "@@ -1 +1 @@\n-a\n+c\r\n") "c\nb\n" ∧
      Inexact "a\r\nb\n" firstLine "c\nb\n" ∧
      Inexact "a\nb\n" (sectionOf "@@ -2,0 +2 @@\n+x\n@@ -2,0 +3 @@\n+y\n") "a\nx\ny\nb\n" := by
  refine ⟨⟨by decide +kernel, fun h => ?_⟩, ⟨by decide +kernel, fun h => ?_⟩, ⟨by decide +kernel, fun h => ?_⟩,
    ⟨by decide +kernel, fun h => ?_⟩⟩
  · exact absurd h.patched.whole (by decide +kernel)
  · exact absurd h.patched.whole (by decide +kernel)
  · exact absurd (h.old ⟨_, _⟩ (List.mem_cons_self)) (by decide +kernel)
  · exact absurd h.order (by decide +kernel)

end Terminators

end OpenvpnConnect.Patch
