import OpenvpnConnect.Text.Lines
import OpenvpnConnect.Patch.Basic

-- Git's unified diffs between text files and their new versions.
namespace OpenvpnConnect.Patch

open Text

inductive Mark
  | Context
  | Deletion
  | Addition
deriving DecidableEq, Repr

def Mark.char : Mark → Char
  | .Context => ' '
  | .Deletion => '-'
  | .Addition => '+'

structure DiffLine where
  mark : Mark
  text : Str
deriving DecidableEq, Repr

-- The ranges are as they are written; `title` is what follows them.
structure DiffHunk where
  oldStart : Nat
  oldRange : Str
  newRange : Str
  title : Str
  body : List DiffLine
deriving DecidableEq, Repr

def DiffHunk.old (hunk : DiffHunk) : List Str :=
  (hunk.body.filter (·.mark ≠ .Addition)).map DiffLine.text

def DiffHunk.new (hunk : DiffHunk) : List Str :=
  (hunk.body.filter (·.mark ≠ .Deletion)).map DiffLine.text

-- The first line of a range after `before` lines; an empty range is after its line.
def rangeStart (before count : Nat) : Nat := if count = 0 then before else before + 1

-- A count of one may be left out.
def WritesRange (start count : Nat) (range : Str) : Prop :=
  range = Nat.toDigits 10 start ++ ',' :: Nat.toDigits 10 count ∨ count = 1 ∧ range = Nat.toDigits 10 start

-- The hunk is written for its place after this many lines of the two files.
structure DiffHunk.At (hunk : DiffHunk) (oldBefore newBefore : Nat) : Prop where
  body : hunk.body ≠ []
  oldStart : hunk.oldStart = rangeStart oldBefore hunk.old.length
  oldRange : WritesRange hunk.oldStart hunk.old.length hunk.oldRange
  newRange : WritesRange (rangeStart newBefore hunk.new.length) hunk.new.length hunk.newRange

-- The hunks take the old lines to the new ones; what is between them is kept.
def Describes : Nat → Nat → List DiffHunk → List Str → List Str → Prop
  | _, _, [], old, new => old = new
  | oldBefore, newBefore, hunk :: rest, old, new => ∃ kept oldRest newRest,
      old = kept ++ hunk.old ++ oldRest ∧ new = kept ++ hunk.new ++ newRest ∧
        hunk.At (oldBefore + kept.length) (newBefore + kept.length) ∧
        Describes (oldBefore + kept.length + hunk.old.length) (newBefore + kept.length + hunk.new.length) rest
          oldRest newRest

-- How git writes the names of the two versions of a file, together and each on its
-- own. It quotes some names, those with control characters among them, and ends
-- others with a tab.
structure GitNames where
  both : Str → Str
  source : Str → Str
  destination : Str → Str
  both_first : ∀ path, (both path).head? = some 'a' ∨ (both path).head? = some '"'
  both_closed : ∀ path, '\n' ∉ both path
  source_closed : ∀ path, '\n' ∉ source path
  destination_closed : ∀ path, '\n' ∉ destination path
  control : ∀ path, destination path = "b/".toList ++ path → ∀ c ∈ path, 0x20 ≤ c.toNat

-- A name that is written as it is.
def GitNames.Plain (names : GitNames) (path : Str) : Prop := names.destination path = "b/".toList ++ path

structure FileDiff where
  path : Str
  extended : List Str
  hunks : List DiffHunk
  before : List Str
  after : List Str
deriving DecidableEq, Repr

structure FileDiff.WellFormed (file : FileDiff) : Prop where
  extended : ∀ line ∈ file.extended, '\n' ∉ line ∧
    ∃ keyword ∈ ["index ", "old mode ", "new mode "], keyword.toList <+: line
  before : ∀ line ∈ file.before, '\n' ∉ line
  after : ∀ line ∈ file.after, '\n' ∉ line
  -- no text in memory is longer
  bounded : (unlines file.before).length < 2 ^ 64
  hunks : file.hunks ≠ []
  titles : ∀ hunk ∈ file.hunks, '\n' ∉ hunk.title
  describes : Describes 0 0 file.hunks file.before file.after

def DiffLine.render (line : DiffLine) : Str := line.mark.char :: line.text

def DiffHunk.header (hunk : DiffHunk) : Str :=
  "@@ -".toList ++ hunk.oldRange ++ " +".toList ++ hunk.newRange ++ " @@".toList ++ hunk.title

def DiffHunk.render (hunk : DiffHunk) : List Str := hunk.header :: hunk.body.map DiffLine.render

def FileDiff.preamble (names : GitNames) (file : FileDiff) : List Str :=
  [names.both file.path] ++ file.extended ++ ["--- ".toList ++ names.source file.path]

-- What follows `diff --git `.
def FileDiff.section (names : GitNames) (file : FileDiff) : Str :=
  unlines (file.preamble names ++ ["+++ ".toList ++ names.destination file.path] ++
    file.hunks.flatMap DiffHunk.render)

def DIFF_GIT : Str := "diff --git ".toList

def renderDiff (names : GitNames) (diff : List FileDiff) : Str :=
  diff.flatMap fun file => DIFF_GIT ++ file.section names

-- A diff of files that are in the tree.
structure WellFormed (tree : Tree) (diff : List FileDiff) : Prop where
  files : ∀ file ∈ diff, file.WellFormed
  paths : (diff.map FileDiff.path).Nodup
  sources : ∀ file ∈ diff, tree file.path = some (unlines file.before)

def newTree (tree : Tree) : List FileDiff → Tree
  | [] => tree
  | file :: rest => newTree (Function.update tree file.path (some (unlines file.after))) rest

end OpenvpnConnect.Patch
