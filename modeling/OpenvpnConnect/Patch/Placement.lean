import OpenvpnConnect.Patch.Sections
import Mathlib.Data.List.Chain

-- Where the patcher puts the hunks of a diff.
namespace OpenvpnConnect.Patch

open Text

-- A hunk that only inserts, after a line: its range starts with the line before it,
-- where all others start with their own first one.
def DiffHunk.Inserts (hunk : DiffHunk) : Prop := hunk.old = [] ∧ hunk.oldStart ≠ 0

instance (hunk : DiffHunk) : Decidable hunk.Inserts :=
  inferInstanceAs (Decidable (hunk.old = [] ∧ hunk.oldStart ≠ 0))

-- An insertion goes in front of the line that it should follow. This is right where
-- it only repeats this line, and the hunk before it has not passed the line yet.
structure Placed (before : List Str) (hunks : List DiffHunk) : Prop where
  repeats : ∀ hunk ∈ hunks, hunk.Inserts → ∀ text ∈ hunk.new, before[hunk.oldStart - 1]? = some text
  apart : hunks.IsChain fun first second =>
    second.Inserts → first.old ≠ [] → first.oldStart + first.old.length ≤ second.oldStart

-- The output once all the lines up to this one are taken over.
def Patching.upTo (original : List Str) (s : Patching) (position : Nat) : List Str :=
  s.output ++ (original.drop s.cursor).take (position - s.cursor)

section Insertion

variable {α : Type}

theorem append_eq_cons_iff {values : List α} {first last : α} :
    values ++ [last] = first :: values ↔ first = last ∧ ∀ value ∈ values, value = last := by
  induction values generalizing first with
  | nil => simp [eq_comm]
  | cons value rest ih =>
      rw [List.cons_append, List.cons.injEq, ih, List.forall_mem_cons]
      constructor
      · rintro ⟨rfl, hvalue, hrest⟩
        exact ⟨hvalue, hvalue, hrest⟩
      · rintro ⟨rfl, hvalue, hrest⟩
        exact ⟨hvalue, hvalue, hrest⟩

-- Values are as well before the last one as after it only if they are copies of it.
theorem insert_before_eq_iff {start whole values : List α} {last : α}
    (hlength : whole.length = start.length + 1) :
    start ++ values ++ [last] = whole ++ values ↔ start ++ [last] = whole ∧ ∀ value ∈ values, value = last := by
  have hsome : whole ≠ [] := by
    rintro rfl
    cases hlength
  obtain ⟨front, first, rfl⟩ := (List.eq_nil_or_concat whole).resolve_left hsome
  rw [List.concat_eq_append] at hlength ⊢
  have hfront : start.length = front.length := by
    rw [List.length_append, List.length_singleton] at hlength
    omega
  have hshift : start ++ values ++ [last] = front ++ [first] ++ values ↔
      start = front ∧ values ++ [last] = first :: values := by
    rw [List.append_assoc, List.append_assoc, List.singleton_append]
    constructor
    · exact fun he => List.append_inj he hfront
    · rintro ⟨rfl, he⟩
      rw [he]
  have hsplit : start ++ [last] = front ++ [first] ↔ start = front ∧ first = last := by
    constructor
    · intro he
      obtain ⟨hstart, hlast⟩ := List.append_inj he hfront
      exact ⟨hstart, (List.singleton_inj.mp hlast).symm⟩
    · rintro ⟨rfl, rfl⟩
      rfl
  rw [hshift, hsplit, append_eq_cons_iff, and_assoc]

end Insertion

section Step

variable {path : Str} {original : List Str} {s : Patching} {hunk : DiffHunk}

theorem upTo_cursor (output : List Str) (cursor : Nat) : Patching.upTo original ⟨output, cursor⟩ cursor = output := by
  simp [Patching.upTo]

theorem upTo_append {i : Nat} {kept rest : List Str} (hcursor : s.cursor ≤ i)
    (hdrop : original.drop i = kept ++ rest) :
    s.upTo original (i + kept.length) = s.upTo original i ++ kept := by
  have hlength : i + kept.length - s.cursor = (i - s.cursor) + kept.length := by omega
  have hback : s.cursor + (i - s.cursor) = i := by omega
  rw [Patching.upTo, hlength, List.take_add, List.drop_drop, hback, hdrop, List.take_left, ← List.append_assoc]
  rfl

-- The place that is read from the header.
theorem DiffHunk.At.position {i j : Nat} (hat : hunk.At i j) :
    (¬hunk.Inserts ∧ hunk.oldStart - 1 = i) ∨ (hunk.Inserts ∧ hunk.oldStart = i) := by
  have hstart := hat.oldStart
  rw [rangeStart] at hstart
  by_cases hold : hunk.old = []
  · rw [hold, List.length_nil, if_pos rfl] at hstart
    by_cases hzero : hunk.oldStart = 0
    · left
      exact ⟨fun hinserts => hinserts.2 hzero, by omega⟩
    · right
      exact ⟨⟨hold, hzero⟩, hstart⟩
  · left
    rw [if_neg (mt List.length_eq_zero_iff.mp hold)] at hstart
    exact ⟨fun hinserts => hold hinserts.1, by omega⟩

theorem applyHunk_ok {i j : Nat} (hat : hunk.At i j) (hstart : hunk.oldStart < 2 ^ 64) {after : Patching} :
    applyHunk path original s hunk.read = .ok after ↔
      s.cursor ≤ hunk.oldStart - 1 ∧ hunk.oldStart - 1 ≤ original.length ∧
        hunk.old.map readBack <+: original.drop (hunk.oldStart - 1) ∧
        after = ⟨s.upTo original (hunk.oldStart - 1) ++ hunk.new.map readBack,
          hunk.oldStart - 1 + hunk.old.length⟩ := by
  have hheader : oldHunkStart hunk.read.header = .ok hunk.oldStart := oldHunkStart_ranges hat.oldRange hstart
  rw [applyHunk, bind_eq_ok]
  constructor
  · rintro ⟨started, hstarted, hbody⟩
    obtain ⟨start, hread, hcursor, hroom, rfl⟩ := startHunk_ok.mp hstarted
    obtain rfl := Except.ok.inj (hheader.symm.trans hread)
    obtain ⟨_, hmatch, rfl⟩ := applyBody_ok.mp hbody
    rw [oldLines_read] at hmatch
    refine ⟨hcursor, hroom, hmatch, ?_⟩
    rw [oldLines_read, newLines_read, List.length_map]
    rfl
  · rintro ⟨hcursor, hroom, hmatch, rfl⟩
    rw [← oldLines_read] at hmatch
    refine ⟨_, startHunk_ok.mpr ⟨_, hheader, hcursor, hroom, rfl⟩,
      applyBody_ok.mpr ⟨sound_read hunk, hmatch, ?_⟩⟩
    rw [oldLines_read, newLines_read, List.length_map]
    rfl

theorem upTo_succ {position : Nat} {last : Str} (hcursor : s.cursor ≤ position)
    (hlast : original[position]? = some last) :
    s.upTo original (position + 1) = s.upTo original position ++ [last] := by
  obtain ⟨hlt, rfl⟩ := List.getElem?_eq_some_iff.mp hlast
  have hdrop : original.drop position = [original[position]] ++ original.drop (position + 1) :=
    List.drop_eq_getElem_cons hlt
  exact upTo_append hcursor hdrop

-- What becomes of a hunk that is written for the place after i lines: it goes there,
-- or it is an insertion and goes in front of the last one of these lines, unless the
-- hunks before it have passed this line.
theorem hunk_cases {i j : Nat} {rest : List Str} (hat : hunk.At i j) (hstart : hunk.oldStart < 2 ^ 64)
    (hcursor : s.cursor ≤ i) (hroom : i ≤ original.length)
    (hdrop : original.drop i = hunk.old.map readBack ++ rest) :
    (¬hunk.Inserts ∧ hunk.oldStart - 1 = i ∧ ∃ next, applyHunk path original s hunk.read = .ok next ∧
        next.cursor = i + hunk.old.length ∧
        next.upTo original (i + hunk.old.length) = s.upTo original i ++ hunk.new.map readBack) ∨
      (hunk.Inserts ∧ hunk.oldStart = i ∧ s.cursor = i ∧
        ∀ next, applyHunk path original s hunk.read ≠ .ok next) ∨
      (hunk.Inserts ∧ hunk.oldStart = i ∧ s.cursor < i ∧ ∃ next front last,
        applyHunk path original s hunk.read = .ok next ∧ next.cursor = i - 1 ∧
        original[i - 1]? = some last ∧ s.upTo original i = front ++ [last] ∧
        next.upTo original i = front ++ hunk.new.map readBack ++ [last]) := by
  rcases hat.position with ⟨hinserts, hposition⟩ | ⟨hinserts, rfl⟩
  · left
    refine ⟨hinserts, hposition, _, (applyHunk_ok hat hstart).mpr ⟨?_, ?_, ?_, rfl⟩, ?_, ?_⟩
    · omega
    · omega
    · rw [hposition, hdrop]
      exact List.prefix_append _ _
    · rw [hposition]
    · rw [hposition]
      exact upTo_cursor _ _
  · right
    have hpositive : 0 < hunk.oldStart := Nat.pos_of_ne_zero hinserts.2
    by_cases hpassed : s.cursor = hunk.oldStart
    · left
      refine ⟨hinserts, rfl, hpassed, fun next hnext => ?_⟩
      have hle := ((applyHunk_ok hat hstart).mp hnext).1
      omega
    · right
      obtain ⟨position, hsucc⟩ : ∃ position, hunk.oldStart = position + 1 :=
        Nat.exists_eq_add_one_of_ne_zero hinserts.2
      have hfront : hunk.oldStart - 1 = position := by omega
      have hlt : position < original.length := by omega
      have hlast : original[position]? = some original[position] := List.getElem?_eq_getElem hlt
      refine ⟨hinserts, rfl, by omega, _, s.upTo original position, original[position],
        (applyHunk_ok hat hstart).mpr ⟨by omega, by omega, ?_, rfl⟩, ?_, ?_, ?_, ?_⟩
      · rw [hinserts.1]
        exact List.nil_prefix
      · rw [hinserts.1]
        rfl
      · rw [hfront]
        exact hlast
      · rw [hsucc]
        exact upTo_succ (by omega) hlast
      · rw [hinserts.1, hfront, hsucc]
        exact (upTo_succ (Nat.le_refl position) hlast).trans (congrArg (· ++ _) (upTo_cursor _ _))

end Step

section Run

variable {path : Str} {before : List Str} {hunks : List DiffHunk} {hunk : DiffHunk} {rest : List DiffHunk}

theorem applyHunks_cons {original : List Str} {s after : Patching} :
    applyHunks path original s ((hunk :: rest).map DiffHunk.read) = .ok after ↔
      ∃ next, applyHunk path original s hunk.read = .ok next ∧
        applyHunks path original next (rest.map DiffHunk.read) = .ok after := by
  rw [List.map_cons, applyHunks, List.foldlM_cons, bind_eq_ok]
  rfl

theorem applyHunks_next {original : List Str} {s next : Patching}
    (hnext : applyHunk path original s hunk.read = .ok next) :
    applyHunks path original s ((hunk :: rest).map DiffHunk.read) =
      applyHunks path original next (rest.map DiffHunk.read) := by
  rw [List.map_cons, applyHunks, List.foldlM_cons, hnext]
  rfl

theorem upTo_drop {original : List Str} {s : Patching} {i : Nat} (hcursor : s.cursor ≤ i) :
    s.output ++ original.drop s.cursor = s.upTo original i ++ original.drop i := by
  have hback : s.cursor + (i - s.cursor) = i := by omega
  have hrest : original.drop i = (original.drop s.cursor).drop (i - s.cursor) := by
    rw [List.drop_drop, hback]
  rw [Patching.upTo, hrest, List.append_assoc, List.take_append_drop]

-- The place of the next hunk and the one after it.
theorem ahead {i : Nat} {kept old oldRest : List Str} (hdrop : before.drop i = kept ++ old ++ oldRest)
    (hroom : i ≤ before.length) :
    i + kept.length + old.length ≤ before.length ∧ before.drop (i + kept.length) = old ++ oldRest ∧
      before.drop (i + kept.length + old.length) = oldRest := by
  have hlength := congrArg List.length hdrop
  simp only [List.length_drop, List.length_append] at hlength
  have hold : before.drop (i + kept.length) = old ++ oldRest := by
    rw [← List.drop_drop, hdrop, List.append_assoc, List.drop_left]
  have hrest : before.drop (i + kept.length + old.length) = oldRest := by
    rw [← List.drop_drop, hold, List.drop_left]
  exact ⟨by omega, hold, hrest⟩

-- The next hunk, with the lines that are kept before it.
theorem hunk_step {i j : Nat} {kept oldRest : List Str} {s : Patching}
    (hdrop : before.drop i = kept ++ hunk.old ++ oldRest) (hat : hunk.At (i + kept.length) j)
    (hroom : i ≤ before.length) (hstart : hunk.oldStart < 2 ^ 64) (hcursor : s.cursor ≤ i) :
    (¬hunk.Inserts ∧ hunk.oldStart - 1 = i + kept.length ∧ ∃ next,
        applyHunk path (before.map readBack) s hunk.read = .ok next ∧
        next.cursor = i + kept.length + hunk.old.length ∧
        next.upTo (before.map readBack) (i + kept.length + hunk.old.length) =
          s.upTo (before.map readBack) i ++ (kept ++ hunk.new).map readBack) ∨
      (hunk.Inserts ∧ hunk.oldStart = i + kept.length ∧ s.cursor = i + kept.length ∧
        ∀ next, applyHunk path (before.map readBack) s hunk.read ≠ .ok next) ∨
      (hunk.Inserts ∧ hunk.oldStart = i + kept.length ∧ s.cursor < i + kept.length ∧ ∃ next front last,
        applyHunk path (before.map readBack) s hunk.read = .ok next ∧ next.cursor = i + kept.length - 1 ∧
        before[i + kept.length - 1]? = some last ∧
        s.upTo (before.map readBack) i ++ kept.map readBack = front ++ [readBack last] ∧
        next.upTo (before.map readBack) (i + kept.length + hunk.old.length) =
          front ++ hunk.new.map readBack ++ [readBack last]) := by
  obtain ⟨hend, hold, _⟩ := ahead hdrop hroom
  have hread : (before.map readBack).drop i = kept.map readBack ++ (hunk.old ++ oldRest).map readBack := by
    rw [← List.map_drop, hdrop, List.append_assoc, List.map_append]
  have hkept : s.upTo (before.map readBack) (i + kept.length) =
      s.upTo (before.map readBack) i ++ kept.map readBack := by
    rw [← upTo_append hcursor hread, List.length_map]
  have hhere : (before.map readBack).drop (i + kept.length) = hunk.old.map readBack ++ oldRest.map readBack := by
    rw [← List.map_drop, hold, List.map_append]
  have hle : s.cursor ≤ i + kept.length := by omega
  have hwithin : i + kept.length ≤ (before.map readBack).length := by
    rw [List.length_map]
    omega
  rcases hunk_cases hat hstart hle hwithin hhere with ⟨hinserts, hposition, next, hnext, hcursor, hupTo⟩ |
    hrefused | ⟨hinserts, hposition, hahead, next, front, last, hnext, hcursor, hlast, hfront, hupTo⟩
  · left
    refine ⟨hinserts, hposition, next, hnext, hcursor, ?_⟩
    rw [hupTo, hkept, List.map_append, List.append_assoc]
  · exact .inr (.inl hrefused)
  · right; right
    rw [List.getElem?_map, Option.map_eq_some_iff] at hlast
    obtain ⟨line, hline, rfl⟩ := hlast
    refine ⟨hinserts, hposition, hahead, next, front, line, hnext, hcursor, hline, ?_, ?_⟩
    · rw [← hkept, hfront]
    · rw [hinserts.1]
      exact hupTo

-- The lines of the new version are in the result, in whatever order.
theorem applyHunks_perm {i j : Nat} {new : List Str} {s after : Patching}
    (hdescribes : Describes i j hunks (before.drop i) new) (hroom : i ≤ before.length)
    (hstarts : ∀ hunk ∈ hunks, hunk.oldStart < 2 ^ 64) (hcursor : s.cursor ≤ i)
    (hok : applyHunks path (before.map readBack) s (hunks.map DiffHunk.read) = .ok after) :
    (after.output ++ (before.map readBack).drop after.cursor).Perm
      (s.upTo (before.map readBack) i ++ new.map readBack) := by
  induction hunks generalizing i j new s with
  | nil =>
      obtain rfl := Except.ok.inj hok
      obtain rfl : before.drop i = new := hdescribes
      rw [upTo_drop hcursor, List.map_drop]
  | cons hunk rest ih =>
      obtain ⟨kept, oldRest, newRest, hdrop, rfl, hat, hrest⟩ := hdescribes
      obtain ⟨hend, _, hnext⟩ := ahead hdrop hroom
      obtain ⟨hstart, hstarts⟩ := List.forall_mem_cons.mp hstarts
      obtain ⟨next, hstep, hok⟩ := applyHunks_cons.mp hok
      rw [← hnext] at hrest
      rcases hunk_step hdrop hat hroom hstart hcursor with ⟨_, _, found, hfound, hplace, hupTo⟩ |
        ⟨_, _, _, hrefused⟩ | ⟨_, _, _, found, front, last, hfound, hplace, _, hfront, hupTo⟩
      · obtain rfl := Except.ok.inj (hfound.symm.trans hstep)
        have hperm := ih hrest hend hstarts (by omega) hok
        rwa [hupTo, List.append_assoc, ← List.map_append] at hperm
      · exact (hrefused next hstep).elim
      · obtain rfl := Except.ok.inj (hfound.symm.trans hstep)
        have hperm := ih hrest hend hstarts (by omega) hok
        have hswap : (front ++ hunk.new.map readBack ++ [readBack last]).Perm
            (front ++ [readBack last] ++ hunk.new.map readBack) := by
          rw [List.append_assoc, List.append_assoc]
          exact List.Perm.append_left front List.perm_append_comm
        rw [hupTo] at hperm
        have hmoved := hperm.trans (hswap.append_right (newRest.map readBack))
        rw [← hfront] at hmoved
        simpa only [List.map_append, List.append_assoc] using hmoved

theorem Placed.cons_iff : Placed before (hunk :: rest) ↔
    (hunk.Inserts → ∀ text ∈ hunk.new, before[hunk.oldStart - 1]? = some text) ∧
      (∀ next ∈ rest.head?, next.Inserts → hunk.old ≠ [] → hunk.oldStart + hunk.old.length ≤ next.oldStart) ∧
      Placed before rest := by
  constructor
  · rintro ⟨hrepeats, hapart⟩
    obtain ⟨hrepeat, hrepeats⟩ := List.forall_mem_cons.mp hrepeats
    obtain ⟨hnext, hapart⟩ := List.isChain_cons.mp hapart
    exact ⟨hrepeat, hnext, hrepeats, hapart⟩
  · rintro ⟨hrepeat, hnext, hrepeats, hapart⟩
    exact ⟨List.forall_mem_cons.mpr ⟨hrepeat, hrepeats⟩, List.isChain_cons.mpr ⟨hnext, hapart⟩⟩

-- The next insertion is after all that the hunks before it are about.
theorem Describes.le_inserts {i j : Nat} {old new : List Str} (hdescribes : Describes i j hunks old new) :
    ∀ next ∈ hunks.head?, next.Inserts → i ≤ next.oldStart := by
  intro next hmem hinserts
  obtain ⟨place, _, hplace, hle, _⟩ := hdescribes.mem (List.mem_of_mem_head? hmem)
  rcases hplace.position with ⟨hnot, _⟩ | ⟨_, rfl⟩
  · exact (hnot hinserts).elim
  · exact hle

-- The same in the numbers of the headers.
theorem DiffHunk.At.passed_iff {i j : Nat} {later : DiffHunk} (hat : hunk.At i j) (hinserts : ¬hunk.Inserts)
    (hlater : later.Inserts) : i + hunk.old.length < later.oldStart ↔
      (hunk.old ≠ [] → hunk.oldStart + hunk.old.length ≤ later.oldStart) := by
  have hpositive : 0 < later.oldStart := Nat.pos_of_ne_zero hlater.2
  have hstart := hat.oldStart
  rw [rangeStart] at hstart
  by_cases hold : hunk.old = []
  · rw [hold, List.length_nil, if_pos rfl] at hstart
    have hzero : hunk.oldStart = 0 := by
      by_contra hsome
      exact hinserts ⟨hold, hsome⟩
    rw [hold, List.length_nil]
    exact ⟨fun _ hne => (hne rfl).elim, fun _ => by omega⟩
  · rw [if_neg (mt List.length_eq_zero_iff.mp hold)] at hstart
    constructor
    · intro hlt _
      omega
    · intro hle
      have hpassed := hle hold
      omega

theorem map_readBack {texts : List Str} (htexts : ∀ text ∈ texts, readBack text = text) :
    texts.map readBack = texts := by
  rw [List.map_congr_left htexts, List.map_id']

-- The line before an insertion is behind the last hunk or kept since, and comes through either way.
theorem readBack_line_before {i cursor : Nat} {kept more : List Str} {last : Str}
    (hdrop : before.drop i = kept ++ more) (hkept : ∀ text ∈ kept, readBack text = text)
    (hbehind : ∀ k text, cursor ≤ k → k < i → before[k]? = some text → readBack text = text)
    (hahead : cursor < i + kept.length) (hlast : before[i + kept.length - 1]? = some last) :
    readBack last = last := by
  by_cases hle : i + kept.length - 1 < i
  · exact hbehind _ last (by omega) hle hlast
  · have hback : i + kept.length - 1 = i + (kept.length - 1) := by omega
    rw [hback, ← List.getElem?_drop, hdrop, List.getElem?_append_left (by omega)] at hlast
    exact hkept last (List.mem_of_getElem? hlast)

-- Lines that have all come through so far go on to the new version exactly where the
-- hunks are placed.
theorem applyHunks_exact {i j : Nat} {new : List Str} {s : Patching} {through : List Str}
    (hdescribes : Describes i j hunks (before.drop i) new) (hroom : i ≤ before.length)
    (hstarts : ∀ hunk ∈ hunks, hunk.oldStart < 2 ^ 64) (hcursor : s.cursor ≤ i)
    (hnew : ∀ text ∈ new, readBack text = text)
    (hbehind : ∀ k text, s.cursor ≤ k → k < i → before[k]? = some text → readBack text = text)
    (hlength : through.length = (s.upTo (before.map readBack) i).length) :
    (∃ after, applyHunks path (before.map readBack) s (hunks.map DiffHunk.read) = .ok after ∧
        after.output ++ (before.map readBack).drop after.cursor = through ++ new) ↔
      s.upTo (before.map readBack) i = through ∧
        (∀ next ∈ hunks.head?, next.Inserts → s.cursor < next.oldStart) ∧ Placed before hunks := by
  induction hunks generalizing i j new s through with
  | nil =>
      obtain rfl : before.drop i = new := hdescribes
      have hnone : Placed before [] := ⟨nofun, List.IsChain.nil⟩
      constructor
      · rintro ⟨after, hok, houtput⟩
        obtain rfl := Except.ok.inj hok
        rw [upTo_drop hcursor, ← List.map_drop, map_readBack hnew, List.append_left_inj] at houtput
        exact ⟨houtput, nofun, hnone⟩
      · rintro ⟨rfl, _⟩
        refine ⟨s, rfl, ?_⟩
        rw [upTo_drop hcursor, ← List.map_drop, map_readBack hnew]
  | cons hunk rest ih =>
      obtain ⟨kept, oldRest, newRest, hdrop, rfl, hat, hrest⟩ := hdescribes
      obtain ⟨hend, _, hnext⟩ := ahead hdrop hroom
      obtain ⟨hstart, hstarts⟩ := List.forall_mem_cons.mp hstarts
      rw [List.append_assoc, List.forall_mem_append, List.forall_mem_append] at hnew
      obtain ⟨hkept, hinserted, hnewRest⟩ := hnew
      rw [← hnext] at hrest
      have hthrough : through ++ (kept ++ hunk.new ++ newRest) = through ++ (kept ++ hunk.new) ++ newRest :=
        (List.append_assoc _ _ _).symm
      have hlater := hrest.le_inserts
      rw [hthrough, Placed.cons_iff]
      rcases hunk_step hdrop hat hroom hstart hcursor with ⟨hinserts, hposition, next, hstep, hplace, hupTo⟩ |
        ⟨hinserts, hposition, hpassed, hrefused⟩ |
        ⟨hinserts, hposition, hahead, next, front, last, hstep, hplace, hlast, hfront, hupTo⟩
      · rw [List.map_append, map_readBack hkept, map_readBack hinserted] at hupTo
        have hlengths : (through ++ (kept ++ hunk.new)).length =
            (next.upTo (before.map readBack) (i + kept.length + hunk.old.length)).length := by
          rw [hupTo, List.length_append, hlength, ← List.length_append]
        have hfree : (∀ later ∈ rest.head?, later.Inserts → next.cursor < later.oldStart) ↔
            ∀ later ∈ rest.head?, later.Inserts → hunk.old ≠ [] →
              hunk.oldStart + hunk.old.length ≤ later.oldStart := by
          rw [hplace]
          exact forall₂_congr fun later _ => forall_congr' fun hlater => hat.passed_iff hinserts hlater
        rw [applyHunks_next hstep, ih hrest hend hstarts (by omega) hnewRest (fun k _ hle hlt => by omega) hlengths,
          hupTo, List.append_left_inj, hfree]
        refine and_congr_right fun _ => ?_
        constructor
        · rintro ⟨hapart, hplaced⟩
          refine ⟨?_, fun h => absurd h hinserts, hapart, hplaced⟩
          rintro _ ⟨⟩ h
          exact absurd h hinserts
        · rintro ⟨_, _, hapart, hplaced⟩
          exact ⟨hapart, hplaced⟩
      · constructor
        · rintro ⟨after, hok, _⟩
          obtain ⟨next, hstep, _⟩ := applyHunks_cons.mp hok
          exact (hrefused next hstep).elim
        · rintro ⟨_, hpast, _⟩
          have hlt := hpast hunk rfl hinserts
          omega
      · have hold : hunk.old.length = 0 := by
          rw [hinserts.1]
          rfl
        have hclean : readBack last = last := by
          rw [List.append_assoc] at hdrop
          exact readBack_line_before hdrop hkept hbehind hahead hlast
        rw [map_readBack hkept, hclean] at hfront
        rw [map_readBack hinserted, hclean] at hupTo
        have hlengths : (through ++ (kept ++ hunk.new)).length =
            (next.upTo (before.map readBack) (i + kept.length + hunk.old.length)).length := by
          have hsum := congrArg List.length hfront
          simp only [List.length_append, List.length_singleton] at hsum
          rw [hupTo]
          simp only [List.length_append, List.length_singleton]
          omega
        have hwhole : (through ++ kept).length = front.length + 1 := by
          have hsum := congrArg List.length hfront
          simp only [List.length_append, List.length_singleton] at hsum ⊢
          omega
        have hnear : ∀ k text, next.cursor ≤ k → k < i + kept.length + hunk.old.length → before[k]? = some text →
            readBack text = text := by
          intro k text hle hlt htext
          obtain rfl : k = i + kept.length - 1 := by omega
          rw [hlast] at htext
          rw [← Option.some.inj htext, hclean]
        rw [applyHunks_next hstep, ih hrest hend hstarts (by omega) hnewRest hnear hlengths, hupTo,
          ← List.append_assoc, insert_before_eq_iff hwhole, ← hfront, List.append_left_inj, and_assoc, hposition,
          hlast]
        refine and_congr_right fun _ => ?_
        constructor
        · rintro ⟨hcopies, _, hplaced⟩
          refine ⟨?_, fun _ text htext => congrArg some (hcopies text htext).symm, ?_, hplaced⟩
          · rintro _ ⟨⟩ _
            omega
          · exact fun later _ _ hne => absurd hinserts.1 hne
        · rintro ⟨_, hcopies, _, hplaced⟩
          refine ⟨fun text htext => (Option.some.inj (hcopies hinserts text htext)).symm, ?_, hplaced⟩
          intro later hmem hlaterInserts
          have hle := hlater later hmem hlaterInserts
          omega

end Run

end OpenvpnConnect.Patch
