import Mathlib.Algebra.Group.Nat.Defs
import OpenvpnConnect.Tls.Output

-- The serial number of the peer's certificate, from the content of its DER INTEGER.
namespace OpenvpnConnect.Tls.Serial

open Output

def i64Max : Nat := 2 ^ 63 - 1

-- u64::from_be_bytes, for any number of bytes.
def fromBeBytes (bytes : List UInt8) : Nat := bytes.foldl (fun value byte => value * 256 + byte.toNat) 0

-- `strip_prefix(&[0])`, or else all of it.
def stripZero (value : List UInt8) : List UInt8 :=
  match value with
  | [] => []
  | first :: rest => if first = 0 then rest else first :: rest

def serialI64 (value : List UInt8) : Int :=
  let value := stripZero value
  if value.length > 8 then -1
  else
    let bytes := List.replicate (8 - value.length) 0 ++ value
    if fromBeBytes bytes ≤ i64Max then fromBeBytes bytes else -1

-- What is read from a certificate that has been parsed; a name is there when it is text.
structure X509Certificate where
  commonNames : List (Option (List UInt8))
  rawSerial : List UInt8

def X509Certificate.cn (certificate : X509Certificate) : List UInt8 :=
  (certificate.commonNames.head?.bind id).getD []

-- The common name, its length and the serial number, when they are written.
def peerInfo (parse : List UInt8 → Except String X509Certificate) (peerCertificates : Option (List (List UInt8)))
    (commonName : OutputPointer) (lengthIsNull serialIsNull : Bool) : Except String (List UInt8 × Nat × Int) :=
  match peerCertificates.bind List.head? with
  | none => .error "peer certificate is unavailable"
  | some certificate =>
      match parse certificate with
      | .error error => .error error
      | .ok certificate =>
          let cn := certificate.cn
          match outputSlice commonName with
          | .error error => .error error
          | .ok capacity =>
              let length := min cn.length capacity
              if lengthIsNull || serialIsNull then .error "peer info output pointer is null"
              else .ok (cn.take length, length, serialI64 certificate.rawSerial)

-- The name and the number of an AuthCert; none for one without them.
def authCert (parse : List UInt8 → Except String X509Certificate) (peerCertificates : Option (List (List UInt8))) :
    Option (List UInt8 × Int) :=
  match peerInfo parse peerCertificates ⟨false, 512, by decide⟩ false false with
  | .error _ => none
  | .ok (commonName, length, serial) =>
      some ((commonName ++ List.replicate (512 - commonName.length) 0).take (min length 512), serial)

-- The AuthCert of a peer has the number as it is reported, and the name as far as
-- it fits.
theorem authCert_eq {parse : List UInt8 → Except String X509Certificate} {leaf : List UInt8}
    {chain : List (List UInt8)} {certificate : X509Certificate} (hparse : parse leaf = .ok certificate) :
    authCert parse (some (leaf :: chain)) = some (certificate.cn.take 512, serialI64 certificate.rawSerial) := by
  have hinfo : peerInfo parse (some (leaf :: chain)) ⟨false, 512, by decide⟩ false false =
      .ok (certificate.cn.take (min certificate.cn.length 512), min certificate.cn.length 512,
        serialI64 certificate.rawSerial) := by
    show (match parse leaf with | .error error => _ | .ok certificate => _) = _
    rw [hparse]
    rfl
  have hlength : (certificate.cn.take (min certificate.cn.length 512)).length = min certificate.cn.length 512 := by
    rw [List.length_take]
    omega
  have hname : certificate.cn.take (min (min (min certificate.cn.length 512) 512) (min certificate.cn.length 512)) =
      certificate.cn.take 512 := List.take_eq_take_iff.mpr (by omega)
  rw [authCert, hinfo]
  dsimp only
  rw [List.take_append_of_le_length (by omega), List.take_take, hname]

section Integer

def signBit (content : List UInt8) : Bool :=
  match content with
  | [] => false
  | first :: _ => 128 ≤ first.toNat

-- The number in two's complement.
def integer (content : List UInt8) : Int :=
  if signBit content then (fromBeBytes content : Int) - (256 ^ content.length : Nat) else fromBeBytes content

-- The content of a DER INTEGER has no byte more than it needs.
def Minimal (content : List UInt8) : Prop :=
  content ≠ [] ∧ ∀ first rest, content = first :: rest → rest ≠ [] →
    ¬(first = 0 ∧ signBit rest = false) ∧ ¬(first = 255 ∧ signBit rest = true)

variable {content : List UInt8}

theorem fromBeBytes_from (value : Nat) (bytes : List UInt8) :
    bytes.foldl (fun value byte => value * 256 + byte.toNat) value = value * 256 ^ bytes.length + fromBeBytes bytes := by
  induction bytes generalizing value with
  | nil => simp [fromBeBytes]
  | cons byte bytes ih =>
      have hstep : (value * 256 + byte.toNat) * 256 ^ bytes.length =
          value * (256 ^ bytes.length * 256) + (0 * 256 + byte.toNat) * 256 ^ bytes.length := by
        rw [Nat.add_mul, Nat.zero_mul, Nat.zero_add, Nat.mul_assoc, Nat.mul_comm 256]
      rw [fromBeBytes, List.foldl_cons, List.foldl_cons, ih, ih, List.length_cons, Nat.pow_succ, hstep, Nat.add_assoc]

theorem fromBeBytes_cons (byte : UInt8) (bytes : List UInt8) :
    fromBeBytes (byte :: bytes) = byte.toNat * 256 ^ bytes.length + fromBeBytes bytes := by
  rw [fromBeBytes, List.foldl_cons, fromBeBytes_from, Nat.zero_mul, Nat.zero_add]

theorem fromBeBytes_lt (bytes : List UInt8) : fromBeBytes bytes < 256 ^ bytes.length := by
  induction bytes with
  | nil => decide
  | cons byte bytes ih =>
      have hbyte : byte.toNat < 256 := byte.toNat_lt
      have hmul := Nat.mul_le_mul_right (256 ^ bytes.length) hbyte
      rw [Nat.succ_mul] at hmul
      rw [fromBeBytes_cons, List.length_cons, Nat.pow_succ]
      omega

theorem fromBeBytes_zeros (count : Nat) (bytes : List UInt8) :
    fromBeBytes (List.replicate count 0 ++ bytes) = fromBeBytes bytes := by
  induction count with
  | zero => rfl
  | succ count ih =>
      rw [List.replicate_succ, List.cons_append, fromBeBytes_cons, ih]
      simp

theorem fromBeBytes_stripZero (bytes : List UInt8) : fromBeBytes (stripZero bytes) = fromBeBytes bytes := by
  cases bytes with
  | nil => rfl
  | cons first rest =>
      rw [stripZero]
      split
      · rename_i hzero
        rw [hzero]
        exact (fromBeBytes_zeros 1 rest).symm
      · rfl

theorem serialI64_eq (value : List UInt8) :
    serialI64 value =
      if 8 < (stripZero value).length then (-1 : Int)
      else if fromBeBytes value ≤ i64Max then (fromBeBytes value : Int) else -1 := by
  rw [serialI64]
  dsimp only
  rw [fromBeBytes_zeros, fromBeBytes_stripZero]

-- What a first byte alone contributes.
theorem le_fromBeBytes {first : UInt8} {rest : List UInt8} {low count : Nat} (hfirst : low ≤ first.toNat)
    (hcount : count ≤ rest.length) : low * 256 ^ count ≤ fromBeBytes (first :: rest) := by
  have hpow : 256 ^ count ≤ 256 ^ rest.length := Nat.pow_le_pow_right (by decide) hcount
  have hmul := Nat.mul_le_mul hfirst hpow
  rw [fromBeBytes_cons]
  omega

theorem integer_neg_iff (content : List UInt8) : integer content < 0 ↔ signBit content = true := by
  have hlt := fromBeBytes_lt content
  rw [integer]
  split
  · rename_i hsign
    have hneg : (fromBeBytes content : Int) - (256 ^ content.length : Nat) < 0 := by omega
    exact iff_of_true hneg hsign
  · rename_i hsign
    exact iff_of_false (by omega) hsign

theorem integer_of_sign (hsign : signBit content = false) : integer content = fromBeBytes content := by
  rw [integer, hsign]
  rfl

theorem le_of_signBit (hsign : signBit content = true) :
    ∃ first rest, content = first :: rest ∧ 128 ≤ first.toNat ∧ stripZero content = content := by
  cases content with
  | nil => cases hsign
  | cons first rest =>
      have hfirst : 128 ≤ first.toNat := of_decide_eq_true hsign
      have hne : first ≠ 0 := by
        rintro rfl
        cases hsign
      exact ⟨first, rest, rfl, hfirst, if_neg hne⟩

-- Without its padding a number that is not negative has more than eight bytes
-- only when it does not fit.
theorem i64Max_lt_of_length (hminimal : Minimal content) (hsign : signBit content = false)
    (hlength : 8 < (stripZero content).length) : i64Max < fromBeBytes content := by
  obtain ⟨hsome, hbytes⟩ := hminimal
  obtain ⟨first, rest, rfl⟩ := List.exists_cons_of_ne_nil hsome
  have hmax : i64Max < 1 * 256 ^ 8 := by decide
  rw [stripZero] at hlength
  split at hlength
  · rename_i hzero
    have hrest : rest ≠ [] := List.length_pos_iff.mp (by omega)
    have hpadding : signBit rest = true := by
      have hneeded := (hbytes first rest rfl hrest).1
      simpa [hzero] using hneeded
    obtain ⟨second, more, rfl, hsecond, _⟩ := le_of_signBit hpadding
    have hvalue := @le_fromBeBytes second more 1 8 (by omega) (Nat.le_of_lt_succ hlength)
    rw [fromBeBytes_cons]
    omega
  · rename_i hne
    have hpos : 1 ≤ first.toNat := by
      have hzero : first.toNat ≠ 0 := fun h => hne (UInt8.toNat_inj.mp h)
      omega
    have hvalue := @le_fromBeBytes first rest 1 8 hpos (Nat.le_of_lt_succ hlength)
    omega

theorem serialI64_nonneg (hminimal : Minimal content) (hsign : signBit content = false) :
    serialI64 content = if integer content ≤ i64Max then integer content else -1 := by
  rw [serialI64_eq, integer_of_sign hsign]
  by_cases hlength : 8 < (stripZero content).length
  · have hmax := i64Max_lt_of_length hminimal hsign hlength
    rw [if_pos hlength, if_neg (by omega)]
  · rw [if_neg hlength]
    simp only [Int.ofNat_le]

-- The sign of a short number is lost.
theorem serialI64_short (hsign : signBit content = true) (hlength : content.length < 8) :
    serialI64 content = fromBeBytes content ∧ 0 < fromBeBytes content := by
  obtain ⟨first, rest, rfl, hfirst, hstrip⟩ := le_of_signBit hsign
  have hlt := fromBeBytes_lt (first :: rest)
  have hpow : 256 ^ (first :: rest).length ≤ 256 ^ 7 := Nat.pow_le_pow_right (by decide) (by omega)
  have hmax : 256 ^ 7 ≤ i64Max := by decide
  have hpos := @le_fromBeBytes first rest 128 0 hfirst (Nat.zero_le _)
  constructor
  · rw [serialI64_eq, hstrip, if_neg (by omega), if_pos (by omega)]
  · omega

theorem serialI64_long (hsign : signBit content = true) (hlength : 8 ≤ content.length) : serialI64 content = -1 := by
  obtain ⟨first, rest, rfl, hfirst, hstrip⟩ := le_of_signBit hsign
  have hmax : i64Max < 128 * 256 ^ 7 := by decide
  have hvalue := @le_fromBeBytes first rest 128 7 hfirst (Nat.le_of_succ_le_succ hlength)
  rw [serialI64_eq, hstrip, if_neg (by omega : ¬fromBeBytes (first :: rest) ≤ i64Max)]
  split
  · rfl
  · rfl

theorem serialI64_negative (hneg : integer content < 0) : 0 < serialI64 content ↔ content.length < 8 := by
  have hsign := (integer_neg_iff content).mp hneg
  by_cases hlength : content.length < 8
  · obtain ⟨hvalue, hpos⟩ := serialI64_short hsign hlength
    omega
  · have hvalue := serialI64_long hsign (by omega)
    omega

-- The number is given, or refused as -1, but for a negative one of less than
-- eight bytes, which is read without its sign. Different numbers that are not
-- negative are given apart. The number of an AuthCert is the one that is given.
theorem serialI64_iff (content : List UInt8) (hminimal : Minimal content) :
    (serialI64 content = (if 0 ≤ integer content ∧ integer content ≤ i64Max then integer content else -1) ↔
      0 ≤ integer content ∨ 8 ≤ content.length) ∧
    (∀ other, Minimal other → 0 ≤ integer content ∧ integer content ≤ i64Max →
      0 ≤ integer other ∧ integer other ≤ i64Max → integer content ≠ integer other →
      serialI64 content ≠ serialI64 other) ∧
    (integer content < 0 → (0 < serialI64 content ↔ content.length < 8)) ∧
    ∀ (parse : List UInt8 → Except String X509Certificate) (leaf : List UInt8) (chain : List (List UInt8))
      (certificate : X509Certificate), parse leaf = .ok certificate → certificate.rawSerial = content →
      authCert parse (some (leaf :: chain)) = some (certificate.cn.take 512, serialI64 content) := by
  have hgiven : ∀ {content : List UInt8}, Minimal content → 0 ≤ integer content →
      serialI64 content = if integer content ≤ i64Max then integer content else -1 := by
    intro content hminimal hle
    apply serialI64_nonneg hminimal
    rw [Bool.eq_false_iff, Ne, ← integer_neg_iff]
    omega
  refine ⟨?_, ?_, serialI64_negative, ?_⟩
  · by_cases hle : 0 ≤ integer content
    · simp only [hle, true_and, true_or, iff_true]
      exact hgiven hminimal hle
    · have hsign := (integer_neg_iff content).mp (by omega)
      rw [if_neg (by omega)]
      by_cases hlength : content.length < 8
      · obtain ⟨hvalue, hpos⟩ := serialI64_short hsign hlength
        omega
      · have hvalue := serialI64_long hsign (by omega)
        omega
  · intro other hother hone htwo hne
    rw [hgiven hminimal hone.1, hgiven hother htwo.1, if_pos hone.2, if_pos htwo.2]
    exact hne
  · intro parse leaf chain certificate hparse hserial
    rw [authCert_eq hparse, hserial]

theorem minimal_singleton (byte : UInt8) : Minimal [byte] := by
  refine ⟨List.cons_ne_nil byte [], fun first rest he hrest => ?_⟩
  exact absurd (List.cons.inj he).2.symm hrest

theorem serialI64_iff_small :
    (serialI64 [5] = (if 0 ≤ integer [5] ∧ integer [5] ≤ i64Max then integer [5] else -1) ↔
      0 ≤ integer [5] ∨ 8 ≤ [5].length) ∧
    serialI64 [5] ≠ serialI64 [6] ∧ (0 < serialI64 [0x80] ↔ [0x80].length < 8) := by
  obtain ⟨hgiven, hapart, _⟩ := serialI64_iff [5] (minimal_singleton 5)
  have hdiffers := hapart [6] (minimal_singleton 6) (by decide) (by decide) (by decide)
  have hnegative := (serialI64_iff [0x80] (minimal_singleton 0x80)).2.2.1 (by decide)
  exact ⟨hgiven, hdiffers, hnegative⟩

theorem serialI64_unsigned :
    Minimal [0xFF] ∧ integer [0xFF] = -1 ∧ serialI64 [0xFF] = 255 ∧
      serialI64 [0xFF] ≠ (if 0 ≤ integer [0xFF] ∧ integer [0xFF] ≤ i64Max then integer [0xFF] else -1) :=
  ⟨minimal_singleton 0xFF, by decide, by decide, by decide⟩

end Integer

end OpenvpnConnect.Tls.Serial
