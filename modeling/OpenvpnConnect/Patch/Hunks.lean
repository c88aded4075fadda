import OpenvpnConnect.Patch.Basic
import OpenvpnConnect.Text.Lines

namespace OpenvpnConnect.Patch

open Text

-- A line of a hunk, as its marker says.
inductive HunkLine
  | Context (text : Str)
  | Deletion (text : Str)
  | Addition (text : Str)
  | NoNewline
  | Broken (panic : Panic)
deriving DecidableEq, Repr

structure Hunk where
  header : Str
  body : List HunkLine
deriving DecidableEq, Repr

-- What a line inside of a hunk is, or nothing where it ends the hunk.
def readLine (line : Str) : Option HunkLine :=
  if line = NO_NEWLINE then some .NoNewline
  else
    match splitAtOne line with
    | .error panic => some (.Broken panic)
    | .ok (marker, text) =>
        if marker = ' ' then some (.Context text)
        else if marker = '-' then some (.Deletion text)
        else if marker = '+' then some (.Addition text)
        else none

-- The lines up to the end of the present hunk, and the hunks after it.
def readHunks : List Str → List HunkLine × List Hunk
  | [] => ([], [])
  | line :: rest =>
      let (body, hunks) := readHunks rest
      match stripPrefix "@@ ".toList line with
      | some header => ([], ⟨header, body⟩ :: hunks)
      | none =>
          match readLine line with
          | some read => (read :: body, hunks)
          | none => ([], hunks)

def hunksOf (patchSection : Str) : List Hunk := (readHunks (lines patchSection)).2

-- The text of a line that has to be in the source, and of one that is in the output.
def HunkLine.old : HunkLine → Option Str
  | .Context text | .Deletion text => some text
  | _ => none

def HunkLine.new : HunkLine → Option Str
  | .Context text | .Addition text => some text
  | _ => none

def oldLines (body : List HunkLine) : List Str := body.filterMap HunkLine.old

def newLines (body : List HunkLine) : List Str := body.filterMap HunkLine.new

section Apply

variable (path : Str) (original : List Str)

def applyLine (s : Patching) : HunkLine → Except Panic Patching
  | .Context text => do
      verifyPatchLine path original s.cursor text
      return ⟨s.output ++ [text], s.cursor + 1⟩
  | .Deletion text => do
      verifyPatchLine path original s.cursor text
      return ⟨s.output, s.cursor + 1⟩
  | .Addition text => return ⟨s.output ++ [text], s.cursor⟩
  | .NoNewline => return s
  | .Broken panic => throw panic

def applyBody (s : Patching) (body : List HunkLine) : Except Panic Patching :=
  body.foldlM (applyLine path original) s

def applyHunk (s : Patching) (hunk : Hunk) : Except Panic Patching := do
  let s ← startHunk path original s hunk.header
  applyBody path original s hunk.body

def applyHunks (s : Patching) (hunks : List Hunk) : Except Panic Patching :=
  hunks.foldlM (applyHunk path original) s

variable {path original}

-- A line inside of a hunk is one round of the inner loop, or the end of the hunk.
theorem patchLines_inside {s : Patching} {line : Str} {rest : List Str}
    (hheader : stripPrefix "@@ ".toList line = none) :
    patchLines path original true s (line :: rest) =
      match readLine line with
      | some read => applyLine path original s read >>= fun s => patchLines path original true s rest
      | none => patchLines path original false s rest := by
  rw [patchLines, hheader, readLine]
  dsimp only
  by_cases hnone : line = NO_NEWLINE
  · rw [if_pos hnone, if_pos hnone]
    rfl
  · rw [if_neg hnone, if_neg hnone]
    cases hsplit : splitAtOne line with
    | error panic => rfl
    | ok found =>
        obtain ⟨marker, text⟩ := found
        show (if marker = ' ' then _ else if marker = '-' then _ else if marker = '+' then _ else _) = _
        dsimp only
        by_cases hcontext : marker = ' '
        · rw [if_pos hcontext, if_pos hcontext]
          cases hverify : verifyPatchLine path original s.cursor text <;> simp only [applyLine, hverify] <;> rfl
        · rw [if_neg hcontext, if_neg hcontext]
          by_cases hdeletion : marker = '-'
          · rw [if_pos hdeletion, if_pos hdeletion]
            cases hverify : verifyPatchLine path original s.cursor text <;> simp only [applyLine, hverify] <;> rfl
          · rw [if_neg hdeletion, if_neg hdeletion]
            by_cases haddition : marker = '+'
            · rw [if_pos haddition, if_pos haddition]
              rfl
            · rw [if_neg haddition, if_neg haddition]

theorem patchLines_of_read {s : Patching} {line : Str} {rest : List Str} {read : HunkLine}
    (hheader : stripPrefix "@@ ".toList line = none) (hread : readLine line = some read) :
    patchLines path original true s (line :: rest) =
      (applyLine path original s read >>= fun s => patchLines path original true s rest) := by
  rw [patchLines_inside hheader, hread]

theorem patchLines_of_end {s : Patching} {line : Str} {rest : List Str}
    (hheader : stripPrefix "@@ ".toList line = none) (hread : readLine line = none) :
    patchLines path original true s (line :: rest) = patchLines path original false s rest := by
  rw [patchLines_inside hheader, hread]

-- The loops do the hunks one after the other.
theorem patchLines_eq (inHunk : Bool) (s : Patching) (texts : List Str) :
    patchLines path original inHunk s texts =
      ((if inHunk then applyBody path original s (readHunks texts).1 else .ok s) >>= fun s =>
        applyHunks path original s (readHunks texts).2) := by
  induction texts generalizing inHunk s with
  | nil => cases inHunk <;> rfl
  | cons line rest ih =>
      cases hheader : stripPrefix "@@ ".toList line with
      | some header =>
          have hread : readHunks (line :: rest) =
              ([], ⟨header, (readHunks rest).1⟩ :: (readHunks rest).2) := by
            rw [readHunks, hheader]
          have hstart : patchLines path original inHunk s (line :: rest) =
              (startHunk path original s header >>= fun s => patchLines path original true s rest) := by
            rw [patchLines, hheader]
          have hbody : (if inHunk then applyBody path original s [] else .ok s) = (pure s : Except Panic Patching) := by
            cases inHunk <;> rfl
          rw [hstart, hread, hbody, pure_bind, applyHunks, List.foldlM_cons, applyHunk, bind_assoc]
          congr 1
          funext started
          exact ih true started
      | none =>
          cases hline : readLine line with
          | some read =>
              have hread : readHunks (line :: rest) = (read :: (readHunks rest).1, (readHunks rest).2) := by
                rw [readHunks, hheader, hline]
              rw [hread]
              cases inHunk with
              | false =>
                  have hskip : patchLines path original false s (line :: rest) =
                      patchLines path original false s rest := by
                    rw [patchLines, hheader]
                    rfl
                  rw [hskip]
                  exact ih false s
              | true =>
                  rw [patchLines_of_read hheader hline, if_pos rfl, applyBody, List.foldlM_cons, bind_assoc]
                  congr 1
                  funext applied
                  exact ih true applied
          | none =>
              have hread : readHunks (line :: rest) = ([], (readHunks rest).2) := by
                rw [readHunks, hheader, hline]
              have hskip : patchLines path original inHunk s (line :: rest) =
                  patchLines path original false s rest := by
                cases inHunk with
                | false =>
                    rw [patchLines, hheader]
                    rfl
                | true => exact patchLines_of_end hheader hline
              have hbody : (if inHunk then applyBody path original s [] else .ok s) =
                  (pure s : Except Panic Patching) := by
                cases inHunk <;> rfl
              rw [hread, hskip, hbody]
              exact ih false s

theorem verifyPatchLine_ok {cursor : Nat} {expected : Str} :
    verifyPatchLine path original cursor expected = .ok () ↔ original[cursor]? = some expected := by
  unfold verifyPatchLine
  cases hline : original[cursor]? with
  | none => exact ⟨fun h => (by cases h), fun h => (by cases h)⟩
  | some actual =>
      by_cases he : actual = expected
      · simp [he]
      · simp [he]

theorem cons_prefix_drop {α : Type} {first : α} {rest whole : List α} {position : Nat} :
    first :: rest <+: whole.drop position ↔ whole[position]? = some first ∧ rest <+: whole.drop (position + 1) := by
  rw [← List.drop_drop]
  cases hdrop : whole.drop position with
  | nil => simp [← List.head?_drop, hdrop]
  | cons found more =>
      rw [← List.head?_drop, hdrop, List.cons_prefix_cons]
      simp [eq_comm]

def HunkLine.Sound (line : HunkLine) : Prop := ∀ panic, line ≠ .Broken panic

theorem applyLine_ok {s after : Patching} {line : HunkLine} :
    applyLine path original s line = .ok after ↔
      line.Sound ∧ (∀ text ∈ line.old, original[s.cursor]? = some text) ∧
        after = ⟨s.output ++ line.new.toList, s.cursor + line.old.toList.length⟩ := by
  cases line with
  | Context text =>
      simp only [applyLine, bind_eq_ok]
      constructor
      · rintro ⟨_, hline, hafter⟩
        refine ⟨nofun, ?_, (Except.ok.inj hafter).symm⟩
        rintro _ ⟨⟩
        exact verifyPatchLine_ok.mp hline
      · rintro ⟨_, hline, rfl⟩
        exact ⟨(), verifyPatchLine_ok.mpr (hline text rfl), rfl⟩
  | Deletion text =>
      simp only [applyLine, bind_eq_ok]
      constructor
      · rintro ⟨_, hline, hafter⟩
        refine ⟨nofun, ?_, ?_⟩
        · rintro _ ⟨⟩
          exact verifyPatchLine_ok.mp hline
        · rw [← Except.ok.inj hafter]
          simp [HunkLine.new, HunkLine.old]
      · rintro ⟨_, hline, rfl⟩
        refine ⟨(), verifyPatchLine_ok.mpr (hline text rfl), ?_⟩
        simp [HunkLine.new, HunkLine.old]
        rfl
  | Addition text | NoNewline =>
      constructor
      · intro hafter
        refine ⟨nofun, nofun, ?_⟩
        rw [← Except.ok.inj hafter]
        simp [HunkLine.new, HunkLine.old]
      · rintro ⟨_, _, rfl⟩
        simp [applyLine, HunkLine.new, HunkLine.old]
        rfl
  | Broken panic => exact ⟨fun h => (by cases h), fun h => absurd rfl (h.1 panic)⟩

-- A hunk goes through exactly where its old lines are next in the source.
theorem applyBody_ok {s after : Patching} {body : List HunkLine} :
    applyBody path original s body = .ok after ↔
      (∀ line ∈ body, line.Sound) ∧ oldLines body <+: original.drop s.cursor ∧
        after = ⟨s.output ++ newLines body, s.cursor + (oldLines body).length⟩ := by
  induction body generalizing s with
  | nil =>
      constructor
      · intro hafter
        refine ⟨nofun, List.nil_prefix, ?_⟩
        rw [← Except.ok.inj hafter]
        simp [oldLines, newLines]
      · rintro ⟨_, _, rfl⟩
        simp [applyBody, oldLines, newLines]
        rfl
  | cons line rest ih =>
      have hsplit : applyBody path original s (line :: rest) =
          (applyLine path original s line >>= fun s => applyBody path original s rest) := List.foldlM_cons
      have hnew : newLines (line :: rest) = line.new.toList ++ newLines rest := by
        cases line <;> rfl
      have hold : oldLines (line :: rest) = line.old.toList ++ oldLines rest := by
        cases line <;> rfl
      have hprefix : oldLines (line :: rest) <+: original.drop s.cursor ↔
          (∀ text ∈ line.old, original[s.cursor]? = some text) ∧
            oldLines rest <+: original.drop (s.cursor + line.old.toList.length) := by
        rw [hold]
        cases line.old with
        | none => simp
        | some text =>
            rw [Option.toList_some, List.singleton_append, cons_prefix_drop]
            simp
      rw [hsplit, bind_eq_ok, hprefix, List.forall_mem_cons]
      constructor
      · rintro ⟨_, hline, hrest⟩
        obtain ⟨hsound, hmatch, rfl⟩ := applyLine_ok.mp hline
        obtain ⟨hsounds, hmatches, rfl⟩ := ih.mp hrest
        refine ⟨⟨hsound, hsounds⟩, ⟨hmatch, hmatches⟩, ?_⟩
        simp [hnew, hold, Nat.add_assoc]
      · rintro ⟨⟨hsound, hsounds⟩, ⟨hmatch, hmatches⟩, rfl⟩
        refine ⟨_, applyLine_ok.mpr ⟨hsound, hmatch, rfl⟩, ih.mpr ⟨hsounds, hmatches, ?_⟩⟩
        simp [hnew, hold, Nat.add_assoc]

theorem startHunk_ok {s after : Patching} {header : Str} :
    startHunk path original s header = .ok after ↔ ∃ start, oldHunkStart header = .ok start ∧
      s.cursor ≤ start - 1 ∧ start - 1 ≤ original.length ∧
        after = ⟨s.output ++ (original.drop s.cursor).take (start - 1 - s.cursor), start - 1⟩ := by
  simp only [startHunk, bind_eq_ok]
  refine exists_congr fun start => and_congr_right fun _ => ?_
  by_cases hposition : s.cursor ≤ start - 1 ∧ start - 1 ≤ original.length
  · rw [if_neg (not_not_intro hposition)]
    constructor
    · intro hafter
      exact ⟨hposition.1, hposition.2, (Except.ok.inj hafter).symm⟩
    · rintro ⟨_, _, rfl⟩
      rfl
  · rw [if_pos hposition]
    exact ⟨fun h => (by cases h), fun h => absurd ⟨h.1, h.2.1⟩ hposition⟩

end Apply

section Join

theorem joinLines_cons (line second : Str) (rest : List Str) (final : Bool) :
    joinLines (line :: second :: rest) final = line ++ LF ++ joinLines (second :: rest) final := by
  simp [joinLines, List.intercalate, LF]

theorem joinLines_closed {output : List Str} (hsome : output ≠ []) : joinLines output true = unlines output := by
  induction output with
  | nil => exact (hsome rfl).elim
  | cons line rest ih =>
      cases rest with
      | nil => simp [joinLines, List.intercalate, unlines, LF]
      | cons second more =>
          rw [joinLines_cons, ih (List.cons_ne_nil _ _)]
          simp [unlines, LF]

-- Joined lines are a file of closed lines only with the final newline, or none at all.
theorem joinLines_eq_unlines {output texts : List Str} (houtput : ∀ line ∈ output, '\n' ∉ line)
    (htexts : ∀ line ∈ texts, '\n' ∉ line) (hlength : output.length = texts.length) {final : Bool} :
    joinLines output final = unlines texts ↔ (final = true ↔ texts ≠ []) ∧ output = texts := by
  by_cases hnone : texts = []
  · obtain rfl : output = [] := by
      rw [hnone] at hlength
      exact List.length_eq_zero_iff.mp hlength
    cases final <;> simp [hnone, joinLines, List.intercalate, unlines]
  · have hsome : output ≠ [] := by
      intro he
      rw [he] at hlength
      exact hnone (List.length_eq_zero_iff.mp hlength.symm)
    cases final with
    | true =>
        rw [joinLines_closed hsome]
        constructor
        · intro he
          exact ⟨by simp [hnone], unlines_inj houtput htexts he⟩
        · rintro ⟨_, rfl⟩
          rfl
    | false =>
        constructor
        · intro he
          -- the last line is open
          have hclosed : joinLines output true = joinLines output false ++ ['\n'] := by
            simp [joinLines]
          rw [joinLines_closed hsome, he] at hclosed
          have hcount := congrArg (List.count '\n') hclosed
          rw [List.count_append, count_unlines houtput, count_unlines htexts, List.count_singleton_self] at hcount
          omega
        · rintro ⟨hfinal, _⟩
          exact absurd (hfinal.mpr hnone) Bool.false_ne_true

end Join

end OpenvpnConnect.Patch
