import OpenvpnConnect.Text.Lines
import OpenvpnConnect.Text.Lemmas
import OpenvpnConnect.Tls.Verifier
import Mathlib.Data.List.Forall2

namespace OpenvpnConnect.Tls

open Text

def isHexDigit (c : Char) : Bool := (toDigit c 16).isSome

def isNote (line : Str) : Bool := line.isEmpty || ['#', ';'].contains (line.headD ' ')

-- The lines that count, trimmed.
def fingerprintLines (text : Str) : List Str := ((lines text).map trim).filter fun line => !isNote line

-- One or more hexadecimal digits whose value is the byte, with a plus sign or not.
def SpellsByte (part : Str) (byte : UInt8) : Prop :=
  ∃ digits, (part = digits ∨ part = '+' :: digits) ∧ digits ≠ [] ∧ (∀ c ∈ digits, isHexDigit c = true) ∧
    digitsValue 16 0 digits = byte.toNat

-- The 32 bytes of the digest between colons.
def SpellsDigest (line : Str) (digest : Digest) : Prop :=
  ∃ parts, line = [':'].intercalate parts ∧ List.Forall₂ SpellsByte parts digest.val

-- Two digits, of either case.
def PrintsByte (part : Str) (byte : UInt8) : Prop :=
  ∃ high low, part = [high, low] ∧ toDigit high 16 = some (byte.toNat / 16) ∧ toDigit low 16 = some (byte.toNat % 16)

def PrintsDigest (line : Str) (digest : Digest) : Prop :=
  ∃ parts, line = [':'].intercalate parts ∧ List.Forall₂ PrintsByte parts digest.val

-- Lines with the digests in their order, and notes between them.
inductive Lists : List Digest → List Str → Prop
  | End : Lists [] []
  | Note {digests : List Digest} {line : Str} {rest : List Str} (hnote : isNote (trim line) = true)
      (hrest : Lists digests rest) : Lists digests (line :: rest)
  | Entry {digest : Digest} {digests : List Digest} {line : Str} {rest : List Str}
      (hline : PrintsDigest (trim line) digest) (hrest : Lists digests rest) :
      Lists (digest :: digests) (line :: rest)

section Grammar

theorem mapM_eq_ok {ε α β : Type} {f : α → Except ε β} {values : List α} {results : List β} :
    values.mapM f = .ok results ↔ List.Forall₂ (fun value result => f value = .ok result) values results := by
  induction values generalizing results with
  | nil =>
      rw [List.mapM_nil, List.forall₂_nil_left_iff]
      exact ⟨fun h => (Except.ok.inj h).symm, fun h => congrArg Except.ok h.symm⟩
  | cons value rest ih =>
      rw [List.mapM_cons, bind_eq_ok]
      constructor
      · rintro ⟨result, hvalue, hrest⟩
        obtain ⟨more, hmore, he⟩ := bind_eq_ok.mp hrest
        obtain rfl := Except.ok.inj he
        exact .cons hvalue (ih.mp hmore)
      · rintro (_ | ⟨hvalue, hrest⟩)
        exact ⟨_, hvalue, bind_eq_ok.mpr ⟨_, ih.mpr hrest, rfl⟩⟩

def byteOf (part : Str) : Except String UInt8 :=
  match fromStrRadix 16 255 part with
  | .ok byte => .ok (UInt8.ofNat byte)
  | .error error => .error ("invalid peer fingerprint: " ++ error)

theorem byteOf_eq_ok {part : Str} {byte : UInt8} : byteOf part = .ok byte ↔ SpellsByte part byte := by
  have hradix : 0 < 16 := by omega
  rw [byteOf]
  constructor
  · intro hok
    split at hok
    · rename_i value hread
      obtain ⟨digits, hpart, hsome, hall, hvalue, hmax⟩ := (fromStrRadix_eq_ok hradix).mp hread
      obtain rfl := Except.ok.inj hok
      have hbyte : (UInt8.ofNat value).toNat = value := UInt8.toNat_ofNat_of_lt' (Nat.lt_succ_of_le hmax)
      exact ⟨digits, hpart, hsome, hall, by rw [hbyte, hvalue]⟩
    · cases hok
  · rintro ⟨digits, hpart, hsome, hall, hvalue⟩
    have hmax : byte.toNat ≤ 255 := Nat.le_of_lt_succ byte.toNat_lt
    rw [(fromStrRadix_eq_ok hradix).mpr ⟨digits, hpart, hsome, hall, hvalue, hmax⟩]
    exact congrArg Except.ok UInt8.ofNat_toNat

theorem not_colon_of_spells {part : Str} {byte : UInt8} (hspells : SpellsByte part byte) : ':' ∉ part := by
  obtain ⟨digits, hpart, _, hall, _⟩ := hspells
  have hdigits : ':' ∉ digits := fun hmem => absurd (hall ':' hmem) (by decide)
  rcases hpart with rfl | rfl
  · exact hdigits
  · intro hmem
    rcases List.mem_cons.mp hmem with hplus | hmem
    · cases hplus
    · exact hdigits hmem

theorem forall_mem_of_forall₂ {α β : Type} {R : α → β → Prop} {values : List α} {results : List β}
    (hall : List.Forall₂ R values results) {value : α} (hmem : value ∈ values) : ∃ result, R value result := by
  induction hall with
  | nil => cases hmem
  | cons hfirst _ ih =>
      rcases List.mem_cons.mp hmem with rfl | hmem
      · exact ⟨_, hfirst⟩
      · exact ih hmem

theorem exists_forall₂ {α β : Type} {R : α → β → Prop} {values : List α} :
    (∃ results, List.Forall₂ R values results) ↔ ∀ value ∈ values, ∃ result, R value result := by
  constructor
  · rintro ⟨results, hall⟩ value hmem
    exact forall_mem_of_forall₂ hall hmem
  · intro hall
    induction values with
    | nil => exact ⟨[], .nil⟩
    | cons value rest ih =>
        obtain ⟨⟨result, hfirst⟩, hrest⟩ := List.forall_mem_cons.mp hall
        obtain ⟨results, hresults⟩ := ih hrest
        exact ⟨result :: results, .cons hfirst hresults⟩

theorem parseFingerprint_eq_ok {line : Str} {digest : Digest} :
    parseFingerprint line = .ok digest ↔ SpellsDigest line digest := by
  have hbytes : ∀ bytes : List UInt8, (line.splitOn ':').mapM byteOf = .ok bytes ↔
      ∃ parts, line = [':'].intercalate parts ∧ parts ≠ [] ∧ List.Forall₂ SpellsByte parts bytes := by
    intro bytes
    rw [mapM_eq_ok]
    simp only [byteOf_eq_ok]
    constructor
    · intro hall
      exact ⟨line.splitOn ':', (List.intercalate_splitOn ':').symm, List.splitOn_ne_nil ':' line, hall⟩
    · rintro ⟨parts, rfl, hsome, hall⟩
      rw [List.splitOn_intercalate ':' _ hsome]
      · exact hall
      · intro part hpart
        obtain ⟨byte, hspells⟩ := forall_mem_of_forall₂ hall hpart
        exact not_colon_of_spells hspells
  show ((line.splitOn ':').mapM byteOf >>= fun bytes => _) = _ ↔ _
  rw [bind_eq_ok]
  constructor
  · rintro ⟨bytes, hread, hdigest⟩
    obtain ⟨parts, hline, _, hall⟩ := (hbytes bytes).mp hread
    split at hdigest
    · obtain rfl := Except.ok.inj hdigest
      exact ⟨parts, hline, hall⟩
    · cases hdigest
  · rintro ⟨parts, hline, hall⟩
    have hsome : parts ≠ [] := by
      rintro rfl
      have hlength := digest.property
      rw [List.forall₂_nil_left_iff.mp hall] at hlength
      cases hlength
    refine ⟨digest.val, (hbytes digest.val).mpr ⟨parts, hline, hsome, hall⟩, ?_⟩
    exact dif_pos digest.property

theorem spells_of_prints {part : Str} {byte : UInt8} (hprints : PrintsByte part byte) : SpellsByte part byte := by
  obtain ⟨high, low, rfl, hhigh, hlow⟩ := hprints
  refine ⟨[high, low], .inl rfl, List.cons_ne_nil _ _, ?_, ?_⟩
  · intro c hc
    rcases List.mem_pair.mp hc with rfl | rfl
    · rw [isHexDigit, hhigh]
      rfl
    · rw [isHexDigit, hlow]
      rfl
  · have hvalue : digitsValue 16 0 [high, low] =
        (0 * 16 + (toDigit high 16).getD 0) * 16 + (toDigit low 16).getD 0 := rfl
    rw [hvalue, hhigh, hlow]
    show (0 * 16 + byte.toNat / 16) * 16 + byte.toNat % 16 = byte.toNat
    omega

theorem parseFingerprints_eq_ok {text : Str} {digests : List Digest} :
    parseFingerprints text = .ok digests ↔ List.Forall₂ SpellsDigest (fingerprintLines text) digests := by
  have hlines : parseFingerprints text = (fingerprintLines text).mapM parseFingerprint := by
    have hcounts : (fun line : Str => !line.isEmpty && !(['#', ';'].contains (line.headD ' '))) =
        fun line => !isNote line := by
      funext line
      rw [isNote, Bool.not_or]
    rw [parseFingerprints, fingerprintLines, hcounts]
  rw [hlines, mapM_eq_ok]
  simp only [parseFingerprint_eq_ok]

end Grammar

section Printed

theorem prints_start {line : Str} {digest : Digest} (hprints : PrintsDigest line digest) :
    ∃ high low rest, line = high :: low :: rest ∧ isHexDigit high = true ∧ isHexDigit low = true := by
  obtain ⟨parts, rfl, hall⟩ := hprints
  cases hbytes : digest.val with
  | nil =>
      have hlength := digest.property
      rw [hbytes] at hlength
      cases hlength
  | cons byte bytes =>
      rw [hbytes] at hall
      cases hall with
      | cons hfirst hrest =>
          obtain ⟨high, low, rfl, hhigh, hlow⟩ := hfirst
          have hdigits : isHexDigit high = true ∧ isHexDigit low = true := by
            rw [isHexDigit, isHexDigit, hhigh, hlow]
            exact ⟨rfl, rfl⟩
          cases hrest with
          | nil => exact ⟨high, low, [], rfl, hdigits⟩
          | cons hsecond hrest => exact ⟨high, low, _, rfl, hdigits⟩

theorem not_note_of_prints {line : Str} {digest : Digest} (hprints : PrintsDigest line digest) :
    isNote line = false := by
  obtain ⟨high, low, rest, rfl, hhigh, _⟩ := prints_start hprints
  rw [isNote, Bool.or_eq_false_iff]
  refine ⟨rfl, Bool.eq_false_iff.mpr fun hmark => ?_⟩
  rw [List.contains_iff_mem] at hmark
  rcases List.mem_pair.mp hmark with he | he
  · rw [List.headD_cons] at he
    subst he
    cases hhigh
  · rw [List.headD_cons] at he
    subst he
    cases hhigh

theorem spellsDigest_of_prints {line : Str} {digest : Digest} (hprints : PrintsDigest line digest) :
    SpellsDigest line digest := by
  obtain ⟨parts, hline, hall⟩ := hprints
  exact ⟨parts, hline, hall.imp fun _ _ => spells_of_prints⟩

theorem forall₂_of_lists {digests : List Digest} {texts : List Str} (hlists : Lists digests texts) :
    List.Forall₂ SpellsDigest ((texts.map trim).filter fun line => !isNote line) digests := by
  induction hlists with
  | End => exact .nil
  | Note hnote _ ih =>
      rw [List.map_cons, List.filter_cons_of_neg]
      · exact ih
      · rw [hnote]
        decide
  | Entry hline _ ih =>
      rw [List.map_cons, List.filter_cons_of_pos]
      · exact .cons (spellsDigest_of_prints hline) ih
      · rw [not_note_of_prints hline]
        rfl

end Printed

-- A text is read exactly if each line that counts has 32 numbers between its
-- colons, of any number of digits, that fit in a byte; a printed list is read back.
theorem fingerprints_grammar (text : Str) :
    (∀ digests, parseFingerprints text = .ok digests ↔
      List.Forall₂ SpellsDigest (fingerprintLines text) digests) ∧
    ((∃ digests, parseFingerprints text = .ok digests) ↔
      ∀ line ∈ fingerprintLines text, ∃ digest, SpellsDigest line digest) ∧
    ∀ digests, Lists digests (lines text) → parseFingerprints text = .ok digests := by
  refine ⟨fun digests => parseFingerprints_eq_ok, ?_, fun digests hlists => ?_⟩
  · simp only [parseFingerprints_eq_ok]
    exact exists_forall₂
  · exact parseFingerprints_eq_ok.mpr (forall₂_of_lists hlists)

section Printer

-- A digest as it is printed, in lower case.
def printByte (byte : UInt8) : Str := [Nat.digitChar (byte.toNat / 16), Nat.digitChar (byte.toNat % 16)]

def printDigest (digest : Digest) : Str := [':'].intercalate (digest.val.map printByte)

theorem toDigit_digitChar : ∀ digit < 16, toDigit (Nat.digitChar digit) 16 = some digit := by
  decide

theorem prints_printDigest (digest : Digest) : PrintsDigest (printDigest digest) digest := by
  refine ⟨digest.val.map printByte, rfl, ?_⟩
  rw [List.forall₂_map_left_iff, List.forall₂_same]
  intro byte _
  have hbyte : byte.toNat < 256 := byte.toNat_lt
  exact ⟨_, _, rfl, toDigit_digitChar _ (by omega), toDigit_digitChar _ (by omega)⟩

theorem not_isWhitespace_digitChar : ∀ digit < 16, isWhitespace (Nat.digitChar digit) = false := by
  decide

theorem not_isWhitespace_printed {digest : Digest} : ∀ c ∈ printDigest digest, isWhitespace c = false := by
  have hparts : ∀ (bytes : List UInt8), ∀ c ∈ [':'].intercalate (bytes.map printByte), isWhitespace c = false := by
    intro bytes
    induction bytes with
    | nil => exact nofun
    | cons byte rest ih =>
        have hfirst : ∀ c ∈ printByte byte, isWhitespace c = false := by
          intro c hc
          have hbyte : byte.toNat < 256 := byte.toNat_lt
          rcases List.mem_pair.mp hc with rfl | rfl
          · exact not_isWhitespace_digitChar _ (by omega)
          · exact not_isWhitespace_digitChar _ (by omega)
        cases rest with
        | nil =>
            rw [List.map_cons, List.map_nil, List.intercalate_singleton]
            exact hfirst
        | cons next rest =>
            rw [List.map_cons, List.intercalate_cons_of_ne_nil (by simp)]
            intro c hc
            simp only [List.mem_append, List.mem_singleton] at hc
            rcases hc with (hc | rfl) | hc
            · exact hfirst c hc
            · decide
            · exact ih c hc
  exact hparts digest.val

-- The list of the printed digests, line by line.
theorem lists_printed (digests : List Digest) : Lists digests (lines (unlines (digests.map printDigest))) := by
  have hfree : ∀ line ∈ digests.map printDigest, '\n' ∉ line := by
    intro line hline hnewline
    obtain ⟨digest, _, rfl⟩ := List.mem_map.mp hline
    exact absurd (not_isWhitespace_printed _ hnewline) (by decide)
  rw [lines_unlines hfree]
  clear hfree
  induction digests with
  | nil => exact .End
  | cons digest rest ih =>
      have hplain : readBack (printDigest digest) = printDigest digest := by
        apply readBack_of_ne
        intro hlast
        exact absurd (not_isWhitespace_printed _ (List.mem_of_getLast? hlast)) (by decide)
      refine .Entry ?_ ih
      rw [hplain, trim_of_forall not_isWhitespace_printed]
      exact prints_printDigest digest

end Printer

theorem fingerprints_grammar_stranger :
    parseFingerprints (unlines [printDigest (threeByteCertificates.sha256 strangerCertificate)]) =
      .ok [threeByteCertificates.sha256 strangerCertificate] :=
  (fingerprints_grammar _).2.2 _ (lists_printed [threeByteCertificates.sha256 strangerCertificate])

-- One digit for each byte.
def zeros : Digest := ⟨List.replicate 32 0, rfl⟩

def oneDigitLine : Str := [':'].intercalate (List.replicate 32 ['0'])

theorem one_digit_accepted : parseFingerprints oneDigitLine = .ok [zeros] ∧
    fingerprintLines oneDigitLine = [oneDigitLine] ∧ ¬∃ digest, PrintsDigest oneDigitLine digest := by
  refine ⟨by decide +kernel, by decide +kernel, ?_⟩
  rintro ⟨digest, hprints⟩
  obtain ⟨high, low, rest, he, _, hlow⟩ := prints_start hprints
  have hcolon : low = ':' := (List.cons.inj (List.cons.inj he).2).1.symm
  rw [hcolon] at hlow
  cases hlow

end OpenvpnConnect.Tls
