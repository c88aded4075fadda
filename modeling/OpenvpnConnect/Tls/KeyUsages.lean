import OpenvpnConnect.Text.Lemmas
import OpenvpnConnect.Tls.Verifier

namespace OpenvpnConnect.Tls

open Text

def decimal (value : UInt32) : Str := Nat.toDigits 10 value.toNat

-- As an ostringstream writes them in the classic locale.
def joinKeyUsages (values : List UInt32) : Str :=
  [','].intercalate (values.map decimal)

section HandOff

theorem isDigit_of_mem_decimal {value : UInt32} {c : Char} (hc : c ∈ decimal value) : c.isDigit = true :=
  Nat.isDigit_of_mem_toDigits (by omega) (by omega) hc

theorem trim_decimal (value : UInt32) : trim (decimal value) = decimal value :=
  trim_of_forall fun _ hc => isWhitespace_of_isDigit (isDigit_of_mem_decimal hc)

theorem splitOn_joinKeyUsages {values : List UInt32} (hsome : values ≠ []) :
    (joinKeyUsages values).splitOn ',' = values.map decimal := by
  apply List.splitOn_intercalate
  · intro piece hpiece hcomma
    obtain ⟨value, _, rfl⟩ := List.mem_map.mp hpiece
    exact absurd (isDigit_of_mem_decimal hcomma) (by decide)
  · simpa using hsome

-- What is read of the pieces.
def usageOf (part : Str) : Except String UInt32 :=
  match fromStrRadix 10 (2 ^ 32 - 1) part with
  | .ok usage => .ok (UInt32.ofNat usage)
  | .error error => .error ("invalid remote-cert-ku value: " ++ error)

theorem usageOf_decimal (value : UInt32) : usageOf (decimal value) = .ok value := by
  have hmax : value.toNat ≤ 2 ^ 32 - 1 := Nat.le_sub_one_of_lt value.toNat_lt
  rw [usageOf, decimal, fromStrRadix_toDigits hmax]
  exact congrArg Except.ok UInt32.ofNat_toNat

theorem mapM_usageOf_decimal (values : List UInt32) : (values.map decimal).mapM usageOf = .ok values := by
  induction values with
  | nil => rfl
  | cons value rest ih =>
      rw [List.map_cons, List.mapM_cons, usageOf_decimal, ih]
      rfl

-- The masks that were written are read.
theorem parseKeyUsages_joinKeyUsages (values : List UInt32) :
    parseKeyUsages (joinKeyUsages values) = .ok values := by
  by_cases hsome : values = []
  · rw [hsome]
    rfl
  · have hpieces : (((joinKeyUsages values).splitOn ',').map trim).filter (fun part => !part.isEmpty) =
        values.map decimal := by
      have htrim : trim ∘ decimal = decimal := funext trim_decimal
      rw [splitOn_joinKeyUsages hsome, List.map_map, htrim, List.filter_eq_self]
      intro part hpart
      obtain ⟨value, _, rfl⟩ := List.mem_map.mp hpart
      have hdigits : decimal value ≠ [] := Nat.toDigits_ne_nil
      simp [hdigits]
    show (List.filter _ _).mapM usageOf = _
    rw [hpieces, mapM_usageOf_decimal]

end HandOff

section Bits

-- The loop of encodeKeyUsage after its first rounds.
def usageBits (flags : UInt16) (count : Nat) : UInt32 :=
  (List.range count).foldl (fun encoded bit =>
    if flags.toNat.testBit bit then encoded ||| UInt32.ofNat (2 ^ (7 - bit)) else encoded) 0

theorem usageBits_succ (flags : UInt16) (count : Nat) : usageBits flags (count + 1) =
    if flags.toNat.testBit count then usageBits flags count ||| UInt32.ofNat (2 ^ (7 - count))
    else usageBits flags count := by
  rw [usageBits, List.range_succ, List.foldl_append, List.foldl_cons, List.foldl_nil]
  rfl

theorem testBit_usageBits (flags : UInt16) {count : Nat} (hcount : count ≤ 8) (place : Nat) :
    (usageBits flags count).toNat.testBit place =
      (decide (place ≤ 7 ∧ 7 - place < count) && flags.toNat.testBit (7 - place)) := by
  induction count with
  | zero => simp [usageBits]
  | succ count ih =>
      rw [usageBits_succ]
      have hbefore := ih (by omega)
      have hpower : (UInt32.ofNat (2 ^ (7 - count))).toNat = 2 ^ (7 - count) := by
        have hlt : 2 ^ (7 - count) < 2 ^ 32 := Nat.pow_lt_pow_right (by omega) (by omega)
        exact UInt32.toNat_ofNat_of_lt' hlt
      by_cases hplace : place ≤ 7 ∧ 7 - place = count
      · obtain ⟨hle, rfl⟩ := hplace
        have hback : 7 - (7 - place) = place := by omega
        rw [hback] at hpower
        rw [hback]
        by_cases hset : flags.toNat.testBit (7 - place) = true
        · rw [if_pos hset, UInt32.toNat_or, Nat.testBit_or, hpower, Nat.testBit_two_pow_self, hset]
          simp [hle]
        · rw [if_neg hset, hbefore]
          simp [Bool.eq_false_iff.mpr hset]
      · have hsame :
            decide (place ≤ 7 ∧ 7 - place < count + 1) = decide (place ≤ 7 ∧ 7 - place < count) := by
          apply decide_eq_decide.mpr
          omega
        have hother : (2 ^ (7 - count)).testBit place = false := by
          apply Nat.testBit_two_pow_of_ne
          omega
        rw [hsame]
        by_cases hset : flags.toNat.testBit count = true
        · rw [if_pos hset, UInt32.toNat_or, Nat.testBit_or, hpower, hother, Bool.or_false, hbefore]
        · rw [if_neg hset, hbefore]

-- The mask of a certificate, as bits.
theorem testBit_encodeKeyUsage (flags : UInt16) (place : Nat) :
    (encodeKeyUsage flags).toNat.testBit place = (decide (place ≤ 7) && flags.toNat.testBit (7 - place)) := by
  have hbits := testBit_usageBits flags (Nat.le_refl 8) place
  have hplace : decide (place ≤ 7 ∧ 7 - place < 8) = decide (place ≤ 7) := by
    apply decide_eq_decide.mpr
    omega
  rw [hplace] at hbits
  exact hbits

-- A mask is the certificate's exactly if its bits are.
theorem encodeKeyUsage_eq_iff (flags : UInt16) (mask : UInt32) :
    encodeKeyUsage flags = mask ↔
      ∀ place, mask.toNat.testBit place = (decide (place ≤ 7) && flags.toNat.testBit (7 - place)) := by
  constructor
  · rintro rfl place
    exact testBit_encodeKeyUsage flags place
  · intro hbits
    apply UInt32.toNat_inj.mp
    apply Nat.eq_of_testBit_eq
    intro place
    rw [testBit_encodeKeyUsage, hbits]

end Bits

theorem verifyKeyUsage_ok (policy : CertificatePolicy) (certificate : Certificate) :
    policy.verifyKeyUsage certificate = .ok () ↔
      policy.keyUsages = [] ∨
        ∃ flags, certificate.keyUsage = .ok (some flags) ∧ encodeKeyUsage flags ∈ policy.keyUsages := by
  rw [CertificatePolicy.verifyKeyUsage]
  by_cases hnone : policy.keyUsages = []
  · rw [if_neg (not_not_intro hnone)]
    exact ⟨fun _ => .inl hnone, fun _ => rfl⟩
  · rw [if_pos hnone]
    cases husage : certificate.keyUsage with
    | error error =>
        constructor
        · rintro ⟨⟩
        · rintro (hnil | ⟨_, ⟨⟩, _⟩)
          exact absurd hnil hnone
    | ok usage =>
        cases usage with
        | none =>
            constructor
            · rintro ⟨⟩
            · rintro (hnil | ⟨_, ⟨⟩, _⟩)
              exact absurd hnil hnone
        | some flags =>
            by_cases hmem : encodeKeyUsage flags ∈ policy.keyUsages
            · constructor
              · exact fun _ => .inr ⟨flags, rfl, hmem⟩
              · intro _
                show (if encodeKeyUsage flags ∉ policy.keyUsages then _ else _) = _
                rw [if_neg (not_not_intro hmem)]
                rfl
            · constructor
              · show (if encodeKeyUsage flags ∉ policy.keyUsages then _ else _) = _ → _
                rw [if_pos hmem]
                rintro ⟨⟩
              · rintro (hnil | ⟨_, ⟨⟩, hin⟩)
                · exact absurd hnil hnone
                · exact absurd hin hmem

-- The masks that C++ writes are those that Rust checks, each with the bits of the
-- extension in OpenSSL's order.
theorem key_usages_hand_off (masks : List UInt32) :
    parseKeyUsages (joinKeyUsages masks) = .ok masks ∧
    ∀ {δ γ ρ κ ε τ : Type} (webpki : WebPki δ γ ρ κ ε τ) (inputs : Inputs)
      (verifier : OpenVpnServerVerifier ρ κ),
      inputs.keyUsageSelector = joinKeyUsages masks → configNewVerifier webpki inputs = .ok verifier →
      ∀ certificate : Certificate, verifier.policy.verifyKeyUsage certificate = .ok () ↔
        masks = [] ∨ ∃ flags, certificate.keyUsage = .ok (some flags) ∧ ∃ mask ∈ masks,
          ∀ place, mask.toNat.testBit place = (decide (place ≤ 7) && flags.toNat.testBit (7 - place)) := by
  refine ⟨parseKeyUsages_joinKeyUsages masks, ?_⟩
  intro δ γ ρ κ ε τ webpki inputs verifier hselector hnew certificate
  obtain ⟨keyUsages, hread, hpolicy⟩ := bind_eq_ok.mp (configNewVerifier_makes hnew).policy
  rw [hselector, parseKeyUsages_joinKeyUsages] at hread
  obtain rfl := Except.ok.inj hread
  have hmasks : verifier.policy.keyUsages = masks := by rw [← Except.ok.inj hpolicy]
  rw [verifyKeyUsage_ok, hmasks]
  simp only [← encodeKeyUsage_eq_iff, exists_eq_right']

-- A digital signature and key encipherment are 160 = 0xA0.
def serverUsage : Certificate := ⟨[], [], [], .ok none, .ok (some 5)⟩

def withKeyUsages : Inputs := { withCa with keyUsageSelector := joinKeyUsages [160, 136] }

theorem key_usages_hand_off_server : ∃ verifier,
    configNewVerifier threeByteCertificates withKeyUsages = .ok verifier ∧
      verifier.policy.verifyKeyUsage serverUsage = .ok () := by
  have hnew : configNewVerifier threeByteCertificates withKeyUsages =
      .ok ⟨[1], [], [], true, ⟨0, [160, 136], [], [], 0, []⟩⟩ := by decide +kernel
  have hchecks := (key_usages_hand_off [160, 136]).2 threeByteCertificates withKeyUsages _ rfl hnew serverUsage
  refine ⟨_, hnew, hchecks.mpr (.inr ⟨5, rfl, 160, List.mem_cons_self, ?_⟩)⟩
  exact (encodeKeyUsage_eq_iff 5 160).mp (by decide)

end OpenvpnConnect.Tls
