import OpenvpnConnect.Text.Base64
import OpenvpnConnect.Text.Find
import OpenvpnConnect.Text.Lines

namespace OpenvpnConnect.Tls

open Text

-- What is relied on of Core's Base64; decode throws for what it cannot read.
structure Base64Codec where
  encode : List UInt8 → Str
  decode : Str → Option (List UInt8)
  decode_encode : ∀ bytes, decode (encode bytes) = some bytes
  plain : ∀ bytes, ∀ c ∈ encode bytes, c ∉ ['-', '\r', '\n', ' ', '\t']

-- A BufferAllocated, that throws when it is full.
structure Buffer (α : Type) where
  data : List α
  capacity : Nat
deriving DecidableEq

def Buffer.write {α : Type} (buffer : Buffer α) (values : List α) : Option (Buffer α) :=
  if buffer.data.length + values.length ≤ buffer.capacity then
    some { buffer with data := buffer.data ++ values }
  else none

-- An exception is caught and reported as false.
def reported {α : Type} (destination : Buffer α) (written : Option (Buffer α)) : Bool × Buffer α :=
  match written with
  | some buffer => (true, buffer)
  | none => (false, destination)

def dashes : Str := ['-', '-', '-', '-', '-']

def beginMarker (keyName : Str) : Str := dashes ++ "BEGIN ".toList ++ keyName ++ dashes

def endMarker (keyName : Str) : Str := dashes ++ "END ".toList ++ keyName ++ dashes

-- The pieces at the offsets 0, 64, 128 and so on.
def chunks (encoded : Str) : List Str :=
  (List.range ((encoded.length + 63) / 64)).map fun index => (encoded.drop (64 * index)).take 64

def pemText (codec : Base64Codec) (source : List UInt8) (keyName : Str) : Str :=
  beginMarker keyName ++ ['\n'] ++ (chunks (codec.encode source)).flatMap (· ++ ['\n']) ++ endMarker keyName ++
    ['\n']

def pemEncode (codec : Base64Codec) (destination : Buffer Char) (source : List UInt8) (keyName : Str) :
    Bool × Buffer Char :=
  reported destination (destination.write (pemText codec source keyName))

def isPemSpace (c : Char) : Bool := c == '\r' || c == '\n' || c == ' ' || c == '\t'

def pemDecode (codec : Base64Codec) (destination : Buffer UInt8) (pem keyName : Str) : Bool × Buffer UInt8 :=
  match find (beginMarker keyName) pem with
  | none => (false, destination)
  | some beginAt =>
      let start := beginAt + (beginMarker keyName).length
      match findFrom (endMarker keyName) pem start with
      | none => (false, destination)
      | some endAt =>
          let encoded := ((pem.drop start).take (endAt - start)).filter fun c => !isPemSpace c
          reported destination ((codec.decode encoded).bind destination.write)

section Layout

def IsLineEnd (text : Str) : Prop := text = LF ∨ text = CRLF

-- A line end with the indentation of the next line.
def IsGap (text : Str) : Prop :=
  ∃ ending indent, text = ending ++ indent ∧ IsLineEnd ending ∧ ∀ c ∈ indent, c = ' ' ∨ c = '\t'

-- Lines between gaps.
inductive Spread : List Str → Str → Prop
  | Last {gap : Str} (hgap : IsGap gap) : Spread [] gap
  | Line {gap line : Str} {lines : List Str} {rest : Str} (hgap : IsGap gap) (hrest : Spread lines rest) :
      Spread (line :: lines) (gap ++ line ++ rest)

-- The lines of a text that is broken after every 64 characters.
structure Broken (text : Str) (lines : List Str) : Prop where
  whole : lines.flatten = text
  full : ∀ line ∈ lines.dropLast, line.length = 64
  short : ∀ line ∈ lines, 0 < line.length ∧ line.length ≤ 64

-- What pem_encode writes, with other line ends and indented lines. The
-- indentation of the first line is the end of the text before it.
def IsArmor (codec : Base64Codec) (source : List UInt8) (keyName text : Str) : Prop :=
  ∃ lines middle ending, Broken (codec.encode source) lines ∧ Spread lines middle ∧ IsLineEnd ending ∧
    text = "-----BEGIN ".toList ++ keyName ++ "-----".toList ++ middle ++ "-----END ".toList ++ keyName ++
      "-----".toList ++ ending

theorem isPemSpace_of_gap {gap : Str} (hgap : IsGap gap) : ∀ c ∈ gap, isPemSpace c = true := by
  obtain ⟨ending, indent, rfl, hending, hindent⟩ := hgap
  intro c hc
  rcases List.mem_append.mp hc with hc | hc
  · rcases hending with rfl | rfl
    · rw [List.mem_singleton.mp hc]
      rfl
    · rcases List.mem_pair.mp hc with rfl | rfl
      · rfl
      · rfl
  · rcases hindent c hc with rfl | rfl
    · rfl
    · rfl

theorem filter_gap {gap : Str} (hgap : IsGap gap) : gap.filter (fun c => !isPemSpace c) = [] := by
  rw [List.filter_eq_nil_iff]
  intro c hc
  rw [isPemSpace_of_gap hgap c hc]
  decide

-- Only white space is added to the lines.
theorem filter_spread {lines : List Str} {text : Str} (hspread : Spread lines text)
    (hplain : ∀ line ∈ lines, ∀ c ∈ line, isPemSpace c = false) :
    text.filter (fun c => !isPemSpace c) = lines.flatten := by
  induction hspread with
  | Last hgap => exact filter_gap hgap
  | Line hgap _ ih =>
      obtain ⟨hline, hlines⟩ := List.forall_mem_cons.mp hplain
      rw [List.filter_append, List.filter_append, filter_gap hgap, ih hlines, List.flatten_cons, List.nil_append,
        List.filter_eq_self.mpr]
      intro c hc
      rw [hline c hc]
      rfl

theorem not_dash_of_spread {lines : List Str} {text : Str} (hspread : Spread lines text)
    (hplain : ∀ line ∈ lines, '-' ∉ line) : '-' ∉ text := by
  induction hspread with
  | Last hgap => exact fun hmem => absurd (isPemSpace_of_gap hgap _ hmem) (by decide)
  | Line hgap _ ih =>
      obtain ⟨hline, hlines⟩ := List.forall_mem_cons.mp hplain
      intro hmem
      rcases List.mem_append.mp hmem with hmem | hmem
      · rcases List.mem_append.mp hmem with hmem | hmem
        · exact absurd (isPemSpace_of_gap hgap _ hmem) (by decide)
        · exact hline hmem
      · exact ih hlines hmem

theorem flatten_pieces (encoded : Str) (size count : Nat) :
    ((List.range count).map fun index => (encoded.drop (size * index)).take size).flatten =
      encoded.take (size * count) := by
  induction count with
  | zero => simp
  | succ count ih =>
      rw [List.range_succ, List.map_append, List.flatten_append, ih, Nat.mul_succ, List.take_add]
      simp

theorem flatten_chunks (encoded : Str) : (chunks encoded).flatten = encoded := by
  rw [chunks, flatten_pieces, List.take_of_length_le]
  omega

theorem mem_chunks {encoded line : Str} :
    line ∈ chunks encoded ↔ ∃ index < (encoded.length + 63) / 64, (encoded.drop (64 * index)).take 64 = line := by
  simp [chunks]

theorem broken_chunks (encoded : Str) : Broken encoded (chunks encoded) where
  whole := flatten_chunks encoded
  full := by
    intro line hmem
    have hbefore : ∀ count, (List.range count).dropLast = List.range (count - 1) := by
      intro count
      cases count with
      | zero => rfl
      | succ count => rw [List.range_succ, List.dropLast_concat, Nat.add_sub_cancel]
    rw [chunks, ← List.map_dropLast, hbefore, List.mem_map] at hmem
    obtain ⟨index, hindex, rfl⟩ := hmem
    rw [List.mem_range] at hindex
    rw [List.length_take, List.length_drop]
    omega
  short := by
    intro line hmem
    obtain ⟨index, hindex, rfl⟩ := mem_chunks.mp hmem
    rw [List.length_take, List.length_drop]
    omega

-- The text as it is written, without indentation.
theorem spread_closed (lines : List Str) : Spread lines (LF ++ unlines lines) := by
  have hgap : IsGap LF := ⟨LF, [], (List.append_nil LF).symm, .inl rfl, nofun⟩
  induction lines with
  | nil => exact .Last hgap
  | cons line rest ih =>
      have hcons : LF ++ unlines (line :: rest) = LF ++ line ++ (LF ++ unlines rest) := by simp [unlines]
      rw [hcons]
      exact .Line hgap ih

theorem isArmor_pemText (codec : Base64Codec) (source : List UInt8) (keyName : Str) :
    IsArmor codec source keyName (pemText codec source keyName) := by
  refine ⟨_, _, LF, broken_chunks _, spread_closed (chunks (codec.encode source)), .inl rfl, ?_⟩
  simp [pemText, unlines, LF, beginMarker, endMarker, dashes]

end Layout

section Decode

variable {codec : Base64Codec} {source : List UInt8} {keyName preamble trailing text : Str}

theorem write_ok {α : Type} {buffer : Buffer α} {values : List α}
    (hroom : buffer.data.length + values.length ≤ buffer.capacity) :
    buffer.write values = some { buffer with data := buffer.data ++ values } := if_pos hroom

-- No dash is before the END marker, so that it is found where it has been written.
theorem pemDecode_armor (hpreamble : OnlyAtEnd (beginMarker keyName) preamble)
    (harmor : IsArmor codec source keyName text) (destination : Buffer UInt8) :
    pemDecode codec destination (preamble ++ text ++ trailing) keyName =
      reported destination (destination.write source) := by
  obtain ⟨lines, middle, ending, hbroken, hspread, _, htext⟩ := harmor
  have hmarked : text = beginMarker keyName ++ middle ++ endMarker keyName ++ ending := by
    rw [htext]
    simp [beginMarker, endMarker, dashes]
  subst hmarked
  have hlines : ∀ line ∈ lines, ∀ c ∈ line, c ∉ ['-', '\r', '\n', ' ', '\t'] := by
    intro line hline c hc
    apply codec.plain source c
    rw [← hbroken.whole]
    exact List.mem_flatten.mpr ⟨line, hline, hc⟩
  have hdash : '-' ∉ middle :=
    not_dash_of_spread hspread fun line hline hmem => hlines line hline '-' hmem List.mem_cons_self
  have hfilter : middle.filter (fun c => !isPemSpace c) = codec.encode source := by
    rw [filter_spread hspread, hbroken.whole]
    intro line hline c hc
    have hc := hlines line hline c hc
    simp only [List.mem_cons, not_or] at hc
    simp [isPemSpace, hc]
  have hbegin : beginMarker keyName ≠ [] := by
    simp [beginMarker, dashes]
  have hend : (endMarker keyName).head? = some '-' := by
    simp [endMarker, dashes]
  have hsome : endMarker keyName ≠ [] := by
    simp [endMarker, dashes]
  have hpem : preamble ++ (beginMarker keyName ++ middle ++ endMarker keyName ++ ending) ++ trailing =
      preamble ++ (beginMarker keyName ++ (middle ++ (endMarker keyName ++ (ending ++ trailing)))) := by
    simp only [List.append_assoc]
  have hdrop : (preamble ++ (beginMarker keyName ++ (middle ++ (endMarker keyName ++ (ending ++ trailing))))).drop
      (preamble.length + (beginMarker keyName).length) = middle ++ (endMarker keyName ++ (ending ++ trailing)) := by
    rw [← List.append_assoc, ← List.length_append, List.drop_left]
  rw [hpem, pemDecode, find_onlyAtEnd hbegin hpreamble]
  simp only [findFrom_onlyAtEnd hsome (onlyAtEnd_of_not_mem hend hdash) hdrop, hdrop, Nat.add_sub_cancel_left,
    List.take_left, hfilter, codec.decode_encode, Option.bind_some]

end Decode

-- The encoding is written wherever it fits. Every text that is laid out as the
-- encoding is decoded, after whatever has the BEGIN marker for the first time
-- behind it.
theorem pem_decode_encode (codec : Base64Codec) (source : List UInt8) (keyName : Str) :
    (∀ destination, destination.data.length + (pemText codec source keyName).length ≤ destination.capacity →
      pemEncode codec destination source keyName =
        (true, { destination with data := destination.data ++ pemText codec source keyName })) ∧
    (∀ capacity armor, pemEncode codec ⟨[], capacity⟩ source keyName = (true, armor) →
      IsArmor codec source keyName armor.data) ∧
    (∀ preamble text trailing destination, OnlyAtEnd (beginMarker keyName) preamble →
      IsArmor codec source keyName text → destination.data.length + source.length ≤ destination.capacity →
      pemDecode codec destination (preamble ++ text ++ trailing) keyName =
        (true, { destination with data := destination.data ++ source })) ∧
    ∀ preamble, ¬beginMarker keyName <:+: preamble →
      (∀ last, preamble.getLast? = some last → last ∉ beginMarker keyName) →
      OnlyAtEnd (beginMarker keyName) preamble := by
  refine ⟨?_, ?_, ?_, ?_⟩
  · intro destination hroom
    rw [pemEncode, write_ok hroom]
    rfl
  · intro capacity armor hencode
    have harmor : armor.data = pemText codec source keyName := by
      rw [pemEncode, Buffer.write] at hencode
      split at hencode
      · rw [← (Prod.mk.inj hencode).2]
        rfl
      · cases hencode
    rw [harmor]
    exact isArmor_pemText codec source keyName
  · intro preamble text trailing destination hpreamble harmor hroom
    rw [pemDecode_armor hpreamble harmor, write_ok hroom]
    rfl
  · intro preamble hpart hlast
    cases hend : preamble.getLast? with
    | none =>
        rw [List.getLast?_eq_none_iff.mp hend]
        exact onlyAtEnd_nil
    | some last => exact onlyAtEnd_of_getLast hpart hend (hlast last hend)

-- Core's codec, without line breaks.
def standardCodec : Base64Codec where
  encode := Base64.encode
  decode := Base64.decode
  decode_encode := Base64.decode_encode
  plain := Base64.forall_encode (by decide) (by decide)

def keyText : Str := pemText standardCodec [104, 105] "KEY".toList

theorem pem_decode_encode_key : ∃ armor,
    pemEncode standardCodec ⟨[], 64⟩ [104, 105] "KEY".toList = (true, armor) ∧
      pemDecode standardCodec ⟨[], 16⟩ ("note\n".toList ++ armor.data ++ "rest".toList) "KEY".toList =
        (true, ⟨[104, 105], 16⟩) := by
  obtain ⟨hencode, hwritten, hdecode, hmarker⟩ := pem_decode_encode standardCodec [104, 105] "KEY".toList
  have hpart : ¬beginMarker "KEY".toList <:+: "note\n".toList := by
    intro hinfix
    exact absurd hinfix.length_le (by decide)
  have honly : OnlyAtEnd (beginMarker "KEY".toList) "note\n".toList := by
    apply hmarker _ hpart
    intro last hlast
    obtain rfl : '\n' = last := Option.some.inj hlast
    decide
  have harmor := hencode ⟨[], 64⟩ (by decide +kernel)
  exact ⟨_, harmor, hdecode _ _ _ ⟨[], 16⟩ honly (hwritten 64 _ harmor) (by decide)⟩

-- A text that ends in the middle of a marker opens one with the dashes of the next.
theorem open_marker_not_decoded : ¬beginMarker "KEY".toList <:+: "-----BEGIN KEY".toList ∧
    pemDecode standardCodec ⟨[], 16⟩ ("-----BEGIN KEY".toList ++ keyText) "KEY".toList = (false, ⟨[], 16⟩) := by
  constructor
  · intro hinfix
    exact absurd hinfix.length_le (by decide)
  · decide +kernel

end OpenvpnConnect.Tls
