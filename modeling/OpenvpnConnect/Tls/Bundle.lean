import OpenvpnConnect.Text.Blocks
import OpenvpnConnect.Tls.Loading

-- The supporting certificates of a configuration, one by one.
namespace OpenvpnConnect.Tls.Bundle

open Native Text

def beginMarker : Str := "-----BEGIN CERTIFICATE-----".toList

def endMarker : Str := "-----END CERTIFICATE-----".toList

-- The variables of the loop.
structure Split where
  cursor : Nat
  result : List Str

-- One round of the loop; none is a break.
def round (pem : Str) (split : Split) : Option Split :=
  match findFrom beginMarker pem split.cursor with
  | none => none
  | some beginAt =>
      match findFrom endMarker pem beginAt with
      | none => none
      | some endAt =>
          let after := endAt + endMarker.length
          some ⟨after, split.result ++ [(pem.drop beginAt).take (after - beginAt) ++ ['\n']]⟩

-- `while (true)`, where none says that it has not ended after so many rounds.
def loop (pem : Str) : Nat → Split → Option (List Str)
  | 0, _ => none
  | rounds + 1, split =>
      match round pem split with
      | none => some split.result
      | some next => loop pem rounds next

def splitCertificates (rounds : Nat) (pem : Str) : Option (List Str) := loop pem rounds ⟨0, []⟩

-- A std::string as characters, one for each byte.
def characters (value : CxxString) : Str := value.data.toList.map fun byte => Char.ofNat byte.toNat

def extractExtraCerts (rounds : Nat) (config : Loading.Config) : Option (List Str) :=
  splitCertificates rounds (characters config.extraCerts)

def certificate (body : Str) : Str := beginMarker ++ body ++ endMarker

-- Certificates with what comes before each of them, and what comes after the last.
def bundle (sections : List (Str × Str)) (tail : Str) : Str :=
  (sections.flatMap fun part => part.1 ++ certificate part.2) ++ tail

-- In a gap begins no BEGIN marker, also none that goes on into the one after it,
-- and in a certificate no END marker before the one at its end.
def Separated (sections : List (Str × Str)) : Prop :=
  ∀ part ∈ sections, OnlyAtEnd beginMarker part.1 ∧ OnlyAtEnd endMarker (beginMarker ++ part.2)

theorem beginMarker_ne_nil : beginMarker ≠ [] := by decide

theorem endMarker_ne_nil : endMarker ≠ [] := by decide

theorem endMarker_not_in_beginMarker : ¬endMarker <:+: beginMarker := by decide

theorem endMarker_length_le : endMarker.length ≤ beginMarker.length := by decide

variable {pem : Str} {cursor : Nat} {result blocks : List Str}

theorem round_noBlock (hno : NoBlock beginMarker endMarker (pem.drop cursor)) : round pem ⟨cursor, result⟩ = none := by
  rw [round]
  cases hbegin : findFrom beginMarker pem cursor with
  | none => rfl
  | some beginAt =>
      obtain ⟨hle, hhead⟩ := prefix_of_findFrom hbegin
      have hsuffix : pem.drop beginAt <:+ pem.drop cursor := List.drop_suffix_drop_left pem hle
      have hend := (findFrom_eq_none endMarker_ne_nil).mpr (hno _ hsuffix hhead)
      dsimp only
      rw [hend]

theorem round_block (result : List Str) {gap block rest : Str} (hgap : OnlyAtEnd beginMarker gap)
    (hblock : IsBlock beginMarker endMarker block) (htext : pem.drop cursor = gap ++ (block ++ rest)) :
    ∃ after, round pem ⟨cursor, result⟩ = some ⟨after, result ++ [block ++ ['\n']]⟩ ∧ pem.drop after = rest := by
  obtain ⟨⟨body, hbody⟩, front, hfront, honly⟩ := hblock
  have hbegin : findFrom beginMarker pem cursor = some (cursor + gap.length) := by
    rw [← hbody, List.append_assoc] at htext
    exact findFrom_onlyAtEnd beginMarker_ne_nil hgap htext
  have hat : pem.drop (cursor + gap.length) = block ++ rest := by
    rw [← List.drop_drop, htext, List.drop_left]
  have hend : findFrom endMarker pem (cursor + gap.length) = some (cursor + gap.length + front.length) := by
    rw [hfront, List.append_assoc] at hat
    exact findFrom_onlyAtEnd endMarker_ne_nil honly hat
  have hlength : cursor + gap.length + front.length + endMarker.length = cursor + gap.length + block.length := by
    rw [hfront, List.length_append, Nat.add_assoc _ front.length]
  refine ⟨cursor + gap.length + block.length, ?_, ?_⟩
  · rw [round, hbegin]
    dsimp only
    rw [hend]
    dsimp only
    rw [hlength, Nat.add_sub_cancel_left, hat, List.take_left]
  · rw [← List.drop_drop, hat, List.drop_left]

-- The loop collects the blocks of what is left behind the cursor.
theorem loop_blocks {text : Str} (hblocks : Blocks beginMarker endMarker blocks text) {rounds : Nat}
    (htext : pem.drop cursor = text) (hrounds : text.length < rounds) :
    loop pem rounds ⟨cursor, result⟩ = some (result ++ blocks.map (· ++ ['\n'])) := by
  induction hblocks generalizing cursor result rounds with
  | Last hno =>
      obtain ⟨rounds, rfl⟩ := Nat.exists_eq_succ_of_ne_zero (Nat.ne_of_gt (Nat.zero_lt_of_lt hrounds))
      rw [loop, round_noBlock (htext ▸ hno), List.map_nil, List.append_nil]
  | @Block gap block rest blocks hgap hblock _ ih =>
      obtain ⟨rounds, rfl⟩ := Nat.exists_eq_succ_of_ne_zero (Nat.ne_of_gt (Nat.zero_lt_of_lt hrounds))
      obtain ⟨after, hround, hafter⟩ := round_block result hgap hblock htext
      have hshorter : rest.length < rounds := by
        have hpos := hblock.1.length_le
        have hbegin : 0 < beginMarker.length := by decide
        simp only [List.length_append] at hrounds
        omega
      rw [loop, hround, List.map_cons]
      dsimp only
      rw [ih hafter hshorter, List.append_assoc, List.singleton_append]

theorem splitCertificates_blocks (hblocks : Blocks beginMarker endMarker blocks pem) {rounds : Nat}
    (hrounds : pem.length < rounds) : splitCertificates rounds pem = some (blocks.map (· ++ ['\n'])) :=
  loop_blocks hblocks rfl hrounds

-- What extract_extra_certs splits is the chain as load_cert was given it.
theorem extractExtraCerts_loaded {backend : Loading.Backend} {value extra : CxxString} {config : Loading.Config}
    (hloaded : (Loading.loadCertExtra backend value extra config).1 = .ok ()) (rounds : Nat) :
    extractExtraCerts rounds (Loading.loadCertExtra backend value extra config).2 =
      splitCertificates rounds (characters extra) := by
  rcases Loading.loadCertExtra_cases backend value extra config with
    ⟨_, thrown, hcall⟩ | ⟨_, _, _, thrown, hcall⟩ | ⟨_, hcall⟩
  · rw [hcall] at hloaded
    cases hloaded
  · rw [hcall] at hloaded
    cases hloaded
  · rw [hcall, extractExtraCerts]

-- The certificates of a bundle whose markers cannot be mistaken are found as
-- they are. What is found in any text is in its order, and has one beginning
-- too where no certificate has been cut off.
theorem splitCertificates_exact :
    (∀ (sections : List (Str × Str)) (tail : Str) (rounds : Nat), Separated sections → ¬beginMarker <:+: tail →
      (bundle sections tail).length < rounds →
      splitCertificates rounds (bundle sections tail) = some (sections.map fun part => certificate part.2 ++ ['\n'])) ∧
    (∀ (pem : Str) (rounds : Nat), pem.length < rounds → ∃ blocks : List Str,
      splitCertificates rounds pem = some (blocks.map (· ++ ['\n'])) ∧ InOrder blocks pem ∧
      (∀ block ∈ blocks, beginMarker <+: block ∧ endMarker <:+ block ∧ Once endMarker block) ∧
      (Untruncated beginMarker endMarker pem → ∀ block ∈ blocks, Once beginMarker block)) ∧
    ∀ (backend : Loading.Backend) (value extra : CxxString) (config : Loading.Config) (rounds : Nat),
      (Loading.loadCertExtra backend value extra config).1 = .ok () →
      extractExtraCerts rounds (Loading.loadCertExtra backend value extra config).2 =
        splitCertificates rounds (characters extra) := by
  refine ⟨?_, ?_, fun backend value extra config rounds hloaded => extractExtraCerts_loaded hloaded rounds⟩
  · intro sections tail rounds hseparated htail hrounds
    have hblocks : Blocks beginMarker endMarker (sections.map fun part => certificate part.2) (bundle sections tail) :=
      blocks_of_sections hseparated htail
    rw [splitCertificates_blocks hblocks hrounds, List.map_map]
    rfl
  · intro pem rounds hrounds
    obtain ⟨blocks, hblocks⟩ := exists_blocks endMarker_ne_nil endMarker_not_in_beginMarker pem
    refine ⟨blocks, splitCertificates_blocks hblocks hrounds, hblocks.inOrder, fun block hmem => ?_,
      hblocks.once_opening endMarker_ne_nil endMarker_length_le⟩
    have hblock := hblocks.isBlock block hmem
    have hclosing := hblock.once_closing endMarker_ne_nil
    obtain ⟨hhead, front, rfl, _⟩ := hblock
    exact ⟨hhead, List.suffix_append front endMarker, hclosing⟩

-- A gap of whole lines, and a body on lines of its own.
theorem separated_of_lines {sections : List (Str × Str)}
    (hsections : ∀ part ∈ sections,
      (part.1 = [] ∨ part.1.getLast? = some '\n' ∧ ¬beginMarker <:+: part.1) ∧
      ∃ lines, part.2 = '\n' :: lines ∧ lines.getLast? = some '\n' ∧ ¬endMarker <:+: lines) :
    Separated sections := by
  intro part hpart
  obtain ⟨hgap, lines, hbody, hlast, hfree⟩ := hsections part hpart
  constructor
  · rcases hgap with hnil | ⟨hend, hgap⟩
    · rw [hnil]
      exact onlyAtEnd_nil
    · exact onlyAtEnd_of_getLast hgap hend (by decide)
  · rw [hbody]
    have hend : (beginMarker ++ '\n' :: lines).getLast? = some '\n' := by
      rw [List.getLast?_append_of_ne_nil _ (List.cons_ne_nil _ _), List.getLast?_cons, hlast]
      rfl
    refine onlyAtEnd_of_getLast (fun hpart => ?_) hend (by decide)
    rcases part_of_append_cons (by decide) hpart with hbegin | hlines
    · exact endMarker_not_in_beginMarker hbegin
    · exact hfree hlines

theorem splitCertificates_exact_two :
    splitCertificates 200 (bundle [([], "\nA\n".toList), (['\n'], "\nB\n".toList)] ['C']) =
      some [certificate "\nA\n".toList ++ ['\n'], certificate "\nB\n".toList ++ ['\n']] ∧
    ∃ blocks : List Str,
      splitCertificates 100 (certificate ['A'] ++ beginMarker) = some (blocks.map (· ++ ['\n'])) ∧
      InOrder blocks (certificate ['A'] ++ beginMarker) ∧
      (∀ block ∈ blocks, beginMarker <+: block ∧ endMarker <:+ block ∧ Once endMarker block) ∧
      ∀ block ∈ blocks, Once beginMarker block := by
  constructor
  · apply splitCertificates_exact.1 [([], "\nA\n".toList), (['\n'], "\nB\n".toList)]
    · apply separated_of_lines
      intro part hpart
      rcases List.mem_pair.mp hpart with rfl | rfl
      · exact ⟨.inl rfl, ['A', '\n'], rfl, rfl, by decide⟩
      · exact ⟨.inr ⟨rfl, by decide⟩, ['B', '\n'], rfl, rfl, by decide⟩
    · decide
    · decide
  · obtain ⟨blocks, hsplit, horder, hblocks, honce⟩ :=
      splitCertificates_exact.2.1 (certificate ['A'] ++ beginMarker) 100 (by decide)
    refine ⟨blocks, hsplit, horder, hblocks, honce ?_⟩
    intro first second hlt hfirst hsecond
    have hplaces : ∀ position < 80, beginMarker <+: (certificate ['A'] ++ beginMarker).drop position →
        position = 0 ∨ position = 53 := by decide
    have hend : second + 27 ≤ 80 := length_le_of_prefix_drop beginMarker_ne_nil hsecond
    have hzero := hplaces first (by omega) hfirst
    have hlast := hplaces second (by omega) hsecond
    exact ⟨28, by omega, by omega, by decide⟩

-- The dashes of a gap can belong to a marker, and a certificate that has been
-- cut off is taken together with the next one.
theorem splitCertificates_dashes :
    ((¬beginMarker <:+: "-----BEGIN CERTIFICATE".toList ∧ ¬endMarker <:+: "-----BEGIN CERTIFICATE".toList) ∧
      (¬beginMarker <:+: ['A'] ∧ ¬endMarker <:+: ['A']) ∧
      splitCertificates 76 (bundle [("-----BEGIN CERTIFICATE".toList, ['A'])] []) =
        some ["-----BEGIN CERTIFICATE".toList ++ certificate ['A'] ++ ['\n']]) ∧
    splitCertificates 86 (beginMarker ++ "\nA\n".toList ++ certificate "\nB\n".toList) =
      some [beginMarker ++ "\nA\n".toList ++ certificate "\nB\n".toList ++ ['\n']] ∧
    ¬Once beginMarker (beginMarker ++ "\nA\n".toList ++ certificate "\nB\n".toList) := by
  refine ⟨⟨by decide, by decide, by decide⟩, by decide, ?_⟩
  rintro ⟨position, _, hunique⟩
  have hfirst := hunique 0 (by decide)
  have hsecond := hunique 30 (by decide)
  omega

end OpenvpnConnect.Tls.Bundle
