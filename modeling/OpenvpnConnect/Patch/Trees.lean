import OpenvpnConnect.Patch.Placement
import Mathlib.Algebra.Order.BigOperators.Group.List
import Mathlib.Algebra.Order.Group.Nat

-- Whole diffs on whole trees.
namespace OpenvpnConnect.Patch

open Text

-- The file diffs that are applied as they are meant: the insertions are placed, no
-- file becomes empty or has been, and no line ends with a CR that is lost.
structure FileDiff.Regular (file : FileDiff) : Prop where
  placed : Placed file.before file.hunks
  emptiness : file.before = [] ↔ file.after = []
  returns : ∀ line ∈ file.after, line.getLast? ≠ some '\r'

section File

variable {names : GitNames} {file : FileDiff}

-- As many characters are read back as were written only if no CR was lost.
theorem returns_of_perm {texts : List Str} (hperm : texts.Perm (texts.map readBack)) {line : Str}
    (hmem : line ∈ texts) : line.getLast? ≠ some '\r' := by
  intro hlast
  have hle : ∀ text ∈ texts, (readBack text).length ≤ text.length := fun text _ => length_readBack_le text
  have hlt : (texts.map fun text => (readBack text).length).sum < (texts.map List.length).sum :=
    List.sum_lt_sum _ _ hle ⟨line, hmem, length_readBack_lt hlast⟩
  have hsum := (hperm.map List.length).sum_eq
  rw [List.map_map] at hsum
  exact absurd hsum (Nat.ne_of_gt hlt)

theorem oldStart_lt (hfile : file.WellFormed) {hunk : DiffHunk} (hmem : hunk ∈ file.hunks) :
    hunk.oldStart < 2 ^ 64 := by
  obtain ⟨i, _, hat, _, hle, _⟩ := hfile.describes.mem hmem
  have hstart := hat.oldStart
  have hbound := hfile.bounded
  have hlines : file.before.length ≤ (unlines file.before).length := by
    rw [← count_unlines hfile.before]
    exact List.count_le_length
  rw [rangeStart] at hstart
  split at hstart <;> omega

-- The hunks take the old lines, as they are read, to the new ones.
theorem applyHunks_file (hfile : file.WellFormed) (path : Str) :
    (∃ last, applyHunks path (file.before.map readBack) ⟨[], 0⟩ (file.hunks.map DiffHunk.read) = .ok last ∧
        last.output ++ (file.before.map readBack).drop last.cursor = file.after) ↔
      Placed file.before file.hunks ∧ ∀ line ∈ file.after, line.getLast? ≠ some '\r' := by
  have hstarts : ∀ hunk ∈ file.hunks, hunk.oldStart < 2 ^ 64 := fun hunk hmem => oldStart_lt hfile hmem
  have hexact : (∀ line ∈ file.after, line.getLast? ≠ some '\r') →
      ((∃ last, applyHunks path (file.before.map readBack) ⟨[], 0⟩ (file.hunks.map DiffHunk.read) = .ok last ∧
          last.output ++ (file.before.map readBack).drop last.cursor = [] ++ file.after) ↔
        Placed file.before file.hunks) := by
    intro hreturns
    have hnew : ∀ text ∈ file.after, readBack text = text := fun text hmem => readBack_of_ne (hreturns text hmem)
    have hnone : Patching.upTo (file.before.map readBack) ⟨[], 0⟩ 0 = [] := upTo_cursor [] 0
    rw [applyHunks_exact hfile.describes (Nat.zero_le _) hstarts (Nat.le_refl _) hnew
      (fun k _ _ hlt => absurd hlt (Nat.not_lt_zero k)) (congrArg List.length hnone.symm)]
    constructor
    · exact fun h => h.2.2
    · exact fun hplaced => ⟨hnone, fun next _ hinserts => Nat.pos_of_ne_zero hinserts.2, hplaced⟩
  constructor
  · rintro ⟨last, hlast, houtput⟩
    have hperm := applyHunks_perm hfile.describes (Nat.zero_le _) hstarts (Nat.le_refl _) hlast
    rw [houtput, upTo_cursor, List.nil_append] at hperm
    have hreturns : ∀ line ∈ file.after, line.getLast? ≠ some '\r' := fun line hmem => returns_of_perm hperm hmem
    exact ⟨(hexact hreturns).mp ⟨last, hlast, houtput⟩, hreturns⟩
  · rintro ⟨hplaced, hreturns⟩
    exact (hexact hreturns).mpr hplaced

-- One file is patched to its new version exactly where its diff is regular.
theorem patchText_section (hfile : file.WellFormed) (hplain : names.Plain file.path) (path : Str) :
    patchText path (unlines file.before) (file.section names) = .ok (unlines file.after) ↔ file.Regular := by
  have hlines : lines (unlines file.before) = file.before.map readBack := lines_unlines hfile.before
  have hfinal : (unlines file.before).getLast? = some '\n' ↔ file.before ≠ [] := by
    constructor
    · rintro hlast hnone
      rw [hnone] at hlast
      cases hlast
    · exact getLast_unlines
  have hrun : patchLines path (file.before.map readBack) false ⟨[], 0⟩ (lines (file.section names)) =
      applyHunks path (file.before.map readBack) ⟨[], 0⟩ (file.hunks.map DiffHunk.read) := by
    rw [patchLines_eq, ← hunksOf_section hfile hplain]
    rfl
  have hstarts : ∀ hunk ∈ file.hunks, hunk.oldStart < 2 ^ 64 := fun hunk hmem => oldStart_lt hfile hmem
  have hjoin : ∀ last, applyHunks path (file.before.map readBack) ⟨[], 0⟩ (file.hunks.map DiffHunk.read) = .ok last →
      (joinLines (last.output ++ (file.before.map readBack).drop last.cursor)
          ((unlines file.before).getLast? == some '\n') = unlines file.after ↔
        (file.before ≠ [] ↔ file.after ≠ []) ∧
          last.output ++ (file.before.map readBack).drop last.cursor = file.after) := by
    intro last hlast
    have hperm := applyHunks_perm hfile.describes (Nat.zero_le _) hstarts (Nat.le_refl _) hlast
    rw [upTo_cursor, List.nil_append] at hperm
    have hclosed : ∀ line ∈ last.output ++ (file.before.map readBack).drop last.cursor, '\n' ∉ line := by
      intro line hmem hbreak
      obtain ⟨text, htext, rfl⟩ := List.mem_map.mp (hperm.mem_iff.mp hmem)
      exact hfile.after text htext (mem_readBack hbreak)
    have hlength := hperm.length_eq
    rw [List.length_map] at hlength
    rw [joinLines_eq_unlines hclosed hfile.after hlength, beq_iff_eq, hfinal]
  have hpatched : patchText path (unlines file.before) (file.section names) = .ok (unlines file.after) ↔
      ∃ last, applyHunks path (file.before.map readBack) ⟨[], 0⟩ (file.hunks.map DiffHunk.read) = .ok last ∧
        joinLines (last.output ++ (file.before.map readBack).drop last.cursor)
          ((unlines file.before).getLast? == some '\n') = unlines file.after := by
    simp only [patchText, bind_eq_ok, hlines, hrun]
    exact exists_congr fun last => and_congr_right fun _ => ⟨fun h => Except.ok.inj h, fun h => congrArg _ h⟩
  rw [hpatched]
  constructor
  · rintro ⟨last, hlast, houtput⟩
    obtain ⟨hemptiness, hresult⟩ := (hjoin last hlast).mp houtput
    obtain ⟨hplaced, hreturns⟩ := (applyHunks_file hfile path).mp ⟨last, hlast, hresult⟩
    exact ⟨hplaced, not_iff_not.mp hemptiness, hreturns⟩
  · rintro ⟨hplaced, hemptiness, hreturns⟩
    obtain ⟨last, hlast, hresult⟩ := (applyHunks_file hfile path).mpr ⟨hplaced, hreturns⟩
    exact ⟨last, hlast, (hjoin last hlast).mpr ⟨not_congr hemptiness, hresult⟩⟩

end File

section Whole

variable {names : GitNames} {tree : Tree} {file : FileDiff} {diff : List FileDiff}

theorem applyFilePatch_section (hfile : file.WellFormed) (hplain : names.Plain file.path)
    (hsource : tree file.path = some (unlines file.before)) {after : Tree} :
    applyFilePatch tree (file.section names) = .ok after ↔ ∃ patched,
      patchText file.path (unlines file.before) (file.section names) = .ok patched ∧
        after = Function.update tree file.path (some patched) := by
  simp only [applyFilePatch, destination_section hfile hplain, hsource, bind_eq_ok]
  exact exists_congr fun patched => and_congr_right fun _ => ⟨fun h => (Except.ok.inj h).symm, fun h => congrArg _ h.symm⟩

-- Each file is patched once, and all the others stay as they are.
theorem sections_ok (hdiff : WellFormed tree diff) (hplain : ∀ file ∈ diff, names.Plain file.path) {after : Tree} :
    (diff.map (FileDiff.section names)).foldlM applyFilePatch tree = .ok after ↔
      (∀ path, path ∉ diff.map FileDiff.path → after path = tree path) ∧
        ∀ file ∈ diff, ∃ patched, patchText file.path (unlines file.before) (file.section names) = .ok patched ∧
          after file.path = some patched := by
  induction diff generalizing tree with
  | nil =>
      constructor
      · intro hafter
        obtain rfl := Except.ok.inj hafter
        exact ⟨fun path _ => rfl, nofun⟩
      · rintro ⟨hsame, _⟩
        exact congrArg Except.ok (funext fun path => (hsame path nofun).symm)
  | cons file rest ih =>
      obtain ⟨hfile, hfiles⟩ := List.forall_mem_cons.mp hdiff.files
      obtain ⟨hname, hnames⟩ := List.forall_mem_cons.mp hplain
      obtain ⟨hsource, hsources⟩ := List.forall_mem_cons.mp hdiff.sources
      obtain ⟨hnew, hpaths⟩ := List.nodup_cons.mp hdiff.paths
      have hother : ∀ other ∈ rest, other.path ≠ file.path := fun other hmem he =>
        hnew (he ▸ List.mem_map_of_mem hmem)
      have hrest : ∀ patched, WellFormed (Function.update tree file.path (some patched)) rest := by
        intro patched
        refine ⟨hfiles, hpaths, fun other hmem => ?_⟩
        rw [Function.update_of_ne (hother other hmem)]
        exact hsources other hmem
      rw [List.map_cons, List.foldlM_cons, bind_eq_ok]
      constructor
      · rintro ⟨next, hnext, hafter⟩
        obtain ⟨patched, hpatched, rfl⟩ := (applyFilePatch_section hfile hname hsource).mp hnext
        obtain ⟨hsame, hdone⟩ := (ih (hrest patched) hnames).mp hafter
        refine ⟨fun path hpath => ?_, List.forall_mem_cons.mpr ⟨⟨patched, hpatched, ?_⟩, hdone⟩⟩
        · rw [hsame path (List.not_mem_of_not_mem_cons hpath),
            Function.update_of_ne (List.ne_of_not_mem_cons hpath)]
        · rw [hsame _ hnew, Function.update_self]
      · rintro ⟨hsame, hdone⟩
        obtain ⟨⟨patched, hpatched, hresult⟩, hdone⟩ := List.forall_mem_cons.mp hdone
        refine ⟨_, (applyFilePatch_section hfile hname hsource).mpr ⟨patched, hpatched, rfl⟩,
          (ih (hrest patched) hnames).mpr ⟨fun path hpath => ?_, hdone⟩⟩
        by_cases he : path = file.path
        · rw [he, Function.update_self, hresult]
        · rw [Function.update_of_ne he]
          exact hsame path (List.not_mem_cons_of_ne_of_not_mem he hpath)

theorem newTree_of_not_mem {path : Str} (hpath : path ∉ diff.map FileDiff.path) : newTree tree diff path = tree path := by
  induction diff generalizing tree with
  | nil => rfl
  | cons file rest ih =>
      rw [newTree, ih (List.not_mem_of_not_mem_cons hpath), Function.update_of_ne (List.ne_of_not_mem_cons hpath)]

theorem newTree_of_mem (hpaths : (diff.map FileDiff.path).Nodup) (hmem : file ∈ diff) :
    newTree tree diff file.path = some (unlines file.after) := by
  induction diff generalizing tree with
  | nil => cases hmem
  | cons first rest ih =>
      obtain ⟨hnew, hrest⟩ := List.nodup_cons.mp hpaths
      rcases List.mem_cons.mp hmem with rfl | hmem
      · rw [newTree, newTree_of_not_mem hnew, Function.update_self]
      · exact ih hrest hmem

-- The sections are the ones that were written where none has the words between two
-- of them in itself.
theorem split_renderDiff (hwhole : ∀ file ∈ diff, ¬DIFF_GIT <:+: file.section names) :
    applyUnifiedPatch tree (renderDiff names diff) =
      (diff.map (FileDiff.section names)).foldlM applyFilePatch tree := by
  have hlast : ∀ file : FileDiff, (file.section names).getLast? = some '\n' := fun file =>
    getLast_unlines (by simp)
  have hrender : renderDiff names diff = (diff.map (FileDiff.section names)).flatMap (DIFF_GIT ++ ·) := by
    rw [renderDiff, List.flatMap_map]
  have hpieces : ∀ piece ∈ diff.map (FileDiff.section names), piece.getLast? = some '\n' ∧ ¬DIFF_GIT <:+: piece := by
    intro piece hmem
    obtain ⟨file, hfile, rfl⟩ := List.mem_map.mp hmem
    exact ⟨hlast file, hwhole file hfile⟩
  have hfilled : ∀ piece ∈ diff.map (FileDiff.section names), (!piece.isEmpty) = true := by
    intro piece hmem
    obtain ⟨file, _, rfl⟩ := List.mem_map.mp hmem
    cases htext : file.section names with
    | nil =>
        have hnone := hlast file
        rw [htext] at hnone
        cases hnone
    | cons c rest => rfl
  have hsplit : split (renderDiff names diff) "diff --git ".toList = [] :: diff.map (FileDiff.section names) := by
    rw [hrender]
    exact split_pieces (by decide) (by decide) hpieces
  rw [applyUnifiedPatch, hsplit, List.filter_cons_of_neg (by decide), List.filter_eq_self.mpr hfilled]

-- A diff gives the new tree exactly where that of each file is regular, if the names
-- are written as they are and no section has the words that the patch is split at.
theorem apply_unified_patch_exact (hdiff : WellFormed tree diff) (hplain : ∀ file ∈ diff, names.Plain file.path)
    (hwhole : ∀ file ∈ diff, ¬DIFF_GIT <:+: file.section names) :
    applyUnifiedPatch tree (renderDiff names diff) = .ok (newTree tree diff) ↔ ∀ file ∈ diff, file.Regular := by
  rw [split_renderDiff hwhole, sections_ok hdiff hplain]
  have hfile : ∀ file ∈ diff, (∃ patched, patchText file.path (unlines file.before) (file.section names) =
      .ok patched ∧ newTree tree diff file.path = some patched) ↔ file.Regular := by
    intro file hmem
    rw [newTree_of_mem hdiff.paths hmem, ← patchText_section (hdiff.files file hmem) (hplain file hmem) file.path]
    constructor
    · rintro ⟨patched, hpatched, he⟩
      rw [hpatched, Option.some.inj he]
    · exact fun hpatched => ⟨_, hpatched, rfl⟩
  constructor
  · exact fun h file hmem => (hfile file hmem).mp (h.2 file hmem)
  · exact fun h => ⟨fun path hpath => newTree_of_not_mem hpath, fun file hmem => (hfile file hmem).mpr (h file hmem)⟩

end Whole

section Insertions

def treeOf (file : FileDiff) : Tree := Function.update (fun _ => none) file.path (some (unlines file.before))

theorem wellFormed_treeOf {file : FileDiff} (hfile : file.WellFormed) : WellFormed (treeOf file) [file] := by
  refine ⟨?_, List.pairwise_singleton _ _, ?_⟩
  · intro other hmem
    rwa [List.mem_singleton.mp hmem]
  · intro other hmem
    rw [List.mem_singleton.mp hmem]
    exact Function.update_self _ _ _

-- Only the names that git has no quotes for.
def unquoted : GitNames where
  both path := if path = "f".toList then "a/f b/f".toList else ['"', '"']
  source path := if path = "f".toList then "a/f".toList else ['"', '"']
  destination path := if path = "f".toList then "b/f".toList else ['"', '"']
  both_first path := by
    split
    · exact .inl rfl
    · exact .inr rfl
  both_closed path := by split <;> decide
  source_closed path := by split <;> decide
  destination_closed path := by split <;> decide
  control path := by
    split
    · rename_i he
      rw [he]
      intro _ c hmem
      rw [List.mem_singleton.mp hmem]
      decide
    · exact nofun

-- x is inserted after the first line.
def afterFirst : FileDiff where
  path := "f".toList
  extended := []
  hunks := [⟨1, "1,0".toList, "2".toList, [], [⟨.Addition, "x".toList⟩]⟩]
  before := ["a".toList, "b".toList]
  after := ["a".toList, "x".toList, "b".toList]

-- x is inserted at the start and the second line is deleted.
def atStart : FileDiff where
  path := "f".toList
  extended := []
  hunks := [⟨0, "0,0".toList, "1".toList, [], [⟨.Addition, "x".toList⟩]⟩,
    ⟨2, "2".toList, "2,0".toList, [], [⟨.Deletion, "b".toList⟩]⟩]
  before := ["a".toList, "b".toList]
  after := ["x".toList, "a".toList]

theorem wellFormed_afterFirst : afterFirst.WellFormed := by
  refine ⟨nofun, by decide, by decide, by decide +kernel, by decide, by decide, ?_⟩
  refine ⟨["a".toList], ["b".toList], ["b".toList], rfl, rfl, ⟨nofun, rfl, .inl ?_, .inr ⟨rfl, ?_⟩⟩, rfl⟩
  · decide
  · decide

theorem wellFormed_atStart : atStart.WellFormed := by
  refine ⟨nofun, by decide, by decide, by decide +kernel, by decide, by decide, ?_⟩
  refine ⟨[], ["a".toList, "b".toList], ["a".toList], rfl, rfl, ⟨nofun, rfl, .inl ?_, .inr ⟨rfl, ?_⟩⟩, ?_⟩
  · decide
  · decide
  · refine ⟨["a".toList], [], [], rfl, rfl, ⟨nofun, rfl, .inr ⟨rfl, ?_⟩, .inl ?_⟩, rfl⟩
    · decide
    · decide

-- The line goes in front of the one that it should follow.
theorem insertion_misplaced : WellFormed (treeOf afterFirst) [afterFirst] ∧
    renderDiff unquoted [afterFirst] =
      "diff --git a/f b/f\n--- a/f\n+++ b/f\n@@ -1,0 +2 @@\n+x\n".toList ∧
    (applyUnifiedPatch (treeOf afterFirst) (renderDiff unquoted [afterFirst])).map (· "f".toList) =
      .ok (some "x\na\nb\n".toList) ∧
    newTree (treeOf afterFirst) [afterFirst] "f".toList = some "a\nx\nb\n".toList ∧
    applyUnifiedPatch (treeOf afterFirst) (renderDiff unquoted [afterFirst]) ≠
      .ok (newTree (treeOf afterFirst) [afterFirst]) := by
  have hresult : (applyUnifiedPatch (treeOf afterFirst) (renderDiff unquoted [afterFirst])).map (· "f".toList) =
      .ok (some "x\na\nb\n".toList) := by decide +kernel
  have hnew : newTree (treeOf afterFirst) [afterFirst] "f".toList = some "a\nx\nb\n".toList := by decide +kernel
  refine ⟨wellFormed_treeOf wellFormed_afterFirst, by decide +kernel, hresult, hnew, fun he => ?_⟩
  rw [he] at hresult
  exact absurd (hnew.symm.trans (Except.ok.inj hresult)) (by decide)

theorem apply_unified_patch_exact_atStart :
    applyUnifiedPatch (treeOf atStart) (renderDiff unquoted [atStart]) = .ok (newTree (treeOf atStart) [atStart]) := by
  have hwhole : ∀ file ∈ [atStart], ¬DIFF_GIT <:+: file.section unquoted := by decide +kernel
  have hplain : ∀ file ∈ [atStart], unquoted.Plain file.path := by
    intro file hmem
    rw [List.mem_singleton.mp hmem]
    rfl
  refine (apply_unified_patch_exact (wellFormed_treeOf wellFormed_atStart) hplain hwhole).mpr fun file hmem => ?_
  rw [List.mem_singleton.mp hmem]
  refine ⟨⟨?_, ?_⟩, ?_, ?_⟩
  · decide +kernel
  · decide +kernel
  · decide
  · decide

end Insertions

end OpenvpnConnect.Patch
