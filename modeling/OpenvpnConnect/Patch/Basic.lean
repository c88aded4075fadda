import OpenvpnConnect.Error
import OpenvpnConnect.Text
import Mathlib.Algebra.Group.Nat.Defs
import Mathlib.Logic.Function.Basic

namespace OpenvpnConnect.Patch

open Text

-- Why the build script stops, with the path and the line that the message names.
inductive Panic
  -- patch section has no destination path
  | NoDestinationPath
  -- failed to read patch target
  | TargetUnread (path : Str)
  -- invalid hunk position
  | InvalidHunkPosition (path : Str)
  -- invalid unified patch hunk header
  | InvalidHunkHeader
  -- patch extends beyond the source
  | BeyondSource (path : Str) (line : Nat)
  -- source drift while applying patch
  | SourceDrift (path : Str) (line : Nat)
  -- split_at(1) of an empty line, or inside of a character
  | NotCharBoundary
deriving DecidableEq, Repr

-- The texts of the files under the root, by their relative paths.
abbrev Tree := Str → Option Str

def oldHunkStart (header : Str) : Except Panic Nat :=
  let start := do
    let range ← (splitWhitespace header).head?
    let range ← stripPrefix ['-'] range
    let start ← (range.splitOn ',').head?
    (fromStrRadix 10 (2 ^ 64 - 1) start).toOption
  match start with
  | some start => .ok start
  | none => .error .InvalidHunkHeader

def verifyPatchLine (path : Str) (original : List Str) (cursor : Nat) (expected : Str) : Except Panic Unit :=
  match original[cursor]? with
  | none => .error (.BeyondSource path (cursor + 1))
  | some actual => if actual = expected then .ok () else .error (.SourceDrift path (cursor + 1))

-- The first byte of a line, which is a character only where it is ASCII.
def splitAtOne (line : Str) : Except Panic (Char × Str) :=
  match line with
  | [] => .error .NotCharBoundary
  | marker :: text => if marker.toNat < 128 then .ok (marker, text) else .error .NotCharBoundary

structure Patching where
  output : List Str
  cursor : Nat
deriving DecidableEq, Repr

def startHunk (path : Str) (original : List Str) (s : Patching) (header : Str) : Except Panic Patching := do
  let start ← oldHunkStart header
  let hunkCursor := start - 1
  if ¬(s.cursor ≤ hunkCursor ∧ hunkCursor ≤ original.length) then
    throw (.InvalidHunkPosition path)
  return { output := s.output ++ (original.drop s.cursor).take (hunkCursor - s.cursor), cursor := hunkCursor }

def NO_NEWLINE : Str := "\\ No newline at end of file".toList

-- The two loops of apply_file_patch over the lines of a section; `inHunk` says
-- that the inner one runs.
def patchLines (path : Str) (original : List Str) : Bool → Patching → List Str → Except Panic Patching
  | _, s, [] => .ok s
  | inHunk, s, line :: rest =>
      match stripPrefix "@@ ".toList line with
      | some header => do
          let s ← startHunk path original s header
          patchLines path original true s rest
      | none =>
          if ¬inHunk then patchLines path original false s rest
          else if line = NO_NEWLINE then patchLines path original true s rest
          else do
            let (marker, text) ← splitAtOne line
            if marker = ' ' then
              verifyPatchLine path original s.cursor text
              patchLines path original true ⟨s.output ++ [text], s.cursor + 1⟩ rest
            else if marker = '-' then
              verifyPatchLine path original s.cursor text
              patchLines path original true ⟨s.output, s.cursor + 1⟩ rest
            else if marker = '+' then
              patchLines path original true ⟨s.output ++ [text], s.cursor⟩ rest
            else
              -- break: the outer loop passes over the line
              patchLines path original false s rest

-- The lines joined, and the final newline that the source had.
def joinLines (output : List Str) (hadFinalNewline : Bool) : Str :=
  ['\n'].intercalate output ++ if hadFinalNewline then ['\n'] else []

def patchText (path source patchSection : Str) : Except Panic Str := do
  let hadFinalNewline := source.getLast? == some '\n'
  let original := lines source
  let s ← patchLines path original false ⟨[], 0⟩ (lines patchSection)
  return joinLines (s.output ++ original.drop s.cursor) hadFinalNewline

def destination (patchSection : Str) : Option Str :=
  (lines patchSection).findSome? (stripPrefix "+++ b/".toList)

def applyFilePatch (tree : Tree) (patchSection : Str) : Except Panic Tree :=
  match destination patchSection with
  | none => .error .NoDestinationPath
  | some path =>
      match tree path with
      | none => .error (.TargetUnread path)
      | some source => do
          let patched ← patchText path source patchSection
          return Function.update tree path (some patched)

def applyUnifiedPatch (tree : Tree) (patch : Str) : Except Panic Tree :=
  ((split patch "diff --git ".toList).filter fun value => !value.isEmpty).foldlM applyFilePatch tree

end OpenvpnConnect.Patch
