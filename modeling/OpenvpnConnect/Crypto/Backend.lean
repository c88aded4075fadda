import Mathlib.Data.List.Basic
import Mathlib.Tactic.ByContra

namespace OpenvpnConnect.Crypto

abbrev Bytes := List UInt8

def AES_128_CBC : UInt32 := 1
def AES_192_CBC : UInt32 := 2
def AES_256_CBC : UInt32 := 3
def DES_CBC : UInt32 := 4
def DES_EDE3_CBC : UInt32 := 5
def BF_CBC : UInt32 := 6
def AES_256_CTR : UInt32 := 7
def AES_128_GCM : UInt32 := 8
def AES_192_GCM : UInt32 := 9
def AES_256_GCM : UInt32 := 10
def CHACHA20_POLY1305 : UInt32 := 11
def MD4 : UInt32 := 12
def MD5 : UInt32 := 13
def SHA1 : UInt32 := 14
def SHA224 : UInt32 := 15
def SHA256 : UInt32 := 16
def SHA384 : UInt32 := 17
def SHA512 : UInt32 := 18

def cipherKeySize (algorithm : UInt32) : Except String Nat :=
  if algorithm ∈ [AES_128_CBC, AES_128_GCM, BF_CBC] then .ok 16
  else if algorithm ∈ [AES_192_CBC, AES_192_GCM, DES_EDE3_CBC] then .ok 24
  else if algorithm ∈ [AES_256_CBC, AES_256_CTR, AES_256_GCM, CHACHA20_POLY1305] then .ok 32
  else if algorithm = DES_CBC then .ok 8
  else .error ""

def cipherIvSize (algorithm : UInt32) : Except String Nat :=
  if algorithm ∈ [AES_128_CBC, AES_192_CBC, AES_256_CBC, AES_256_CTR] then .ok 16
  else if algorithm ∈ [DES_CBC, DES_EDE3_CBC, BF_CBC] then .ok 8
  else if algorithm ∈ [AES_128_GCM, AES_192_GCM, AES_256_GCM, CHACHA20_POLY1305] then .ok 12
  else .error ""

def digestSizeFor (algorithm : UInt32) : Except String Nat :=
  if algorithm ∈ [MD4, MD5] then .ok 16
  else if algorithm = SHA1 then .ok 20
  else if algorithm = SHA224 then .ok 28
  else if algorithm = SHA256 then .ok 32
  else if algorithm = SHA384 then .ok 48
  else if algorithm = SHA512 then .ok 64
  else .error ""

def isCipherSupported (algorithm : UInt32) : Bool :=
  [AES_128_CBC, AES_192_CBC, AES_256_CBC, DES_CBC, DES_EDE3_CBC, BF_CBC, AES_256_CTR].contains algorithm

-- What an operation's result becomes for C++; a status comes with the handle
-- that the operation leaves.
def ffiStatus {α : Type} (before : α) : Except String α → Int × α
  | .ok after => (1, after)
  | .error _ => (0, before)

def ffiLength : Except String Nat → Nat
  | .ok length => length
  | .error _ => 0

def ffiPointer {α : Type} : Except String α → Option α
  | .ok handle => some handle
  | .error _ => none

-- `value` at the place `offset` of a buffer.
def memcpy (buffer : Bytes) (offset : Nat) (value : Bytes) : Bytes :=
  buffer.take offset ++ value ++ buffer.drop (offset + value.length)

-- The length of `value`, and the buffer with it.
def copyOutput (output : Bytes) (capacity : Nat) (value : Bytes) : Except String Nat × Bytes :=
  if capacity < value.length then (.error "output buffer is too small", output)
  else (.ok value.length, memcpy output 0 value)

theorem copyOutput_ok {capacity : Nat} {value : Bytes} (output : Bytes) (hroom : value.length ≤ capacity) :
    copyOutput output capacity value = (.ok value.length, value ++ output.drop value.length) := by
  rw [copyOutput, if_neg (by omega)]
  simp [memcpy]

section Hmac

-- The HMAC of each digest.
structure Macs where
  hmac : UInt32 → Bytes → Bytes → Bytes
  length : ∀ algorithm size key data, digestSizeFor algorithm = .ok size →
    (hmac algorithm key data).length = size

instance : Inhabited Macs where
  default :=
    { hmac := fun algorithm _ _ => List.replicate (ffiLength (digestSizeFor algorithm)) 0
      length := by
        intro algorithm size _ _ hsize
        rw [hsize, List.length_replicate]
        rfl }

structure HmacHandle where
  algorithm : UInt32
  key : Bytes
  data : Bytes
deriving DecidableEq, Repr

def computeHmac (macs : Macs) (algorithm : UInt32) (key data : Bytes) : Except String Bytes :=
  if algorithm ∈ [MD4, MD5, SHA1, SHA224, SHA256, SHA384, SHA512] then .ok (macs.hmac algorithm key data)
  else .error "unsupported HMAC"

theorem digestSizeFor_bounds {algorithm : UInt32} {size : Nat} (hsize : digestSizeFor algorithm = .ok size) :
    algorithm ∈ [MD4, MD5, SHA1, SHA224, SHA256, SHA384, SHA512] ∧ 0 < size ∧ size ≤ 64 := by
  have hmem : algorithm ∈ [MD4, MD5, SHA1, SHA224, SHA256, SHA384, SHA512] := by
    by_contra hother
    simp only [List.mem_cons, List.not_mem_nil, or_false, not_or] at hother
    simp [digestSizeFor, hother] at hsize
  refine ⟨hmem, ?_⟩
  simp only [List.mem_cons, List.not_mem_nil, or_false] at hmem
  rcases hmem with rfl | rfl | rfl | rfl | rfl | rfl | rfl <;>
    · obtain rfl := Except.ok.inj hsize
      decide

theorem computeHmac_ok {macs : Macs} {algorithm : UInt32} {size : Nat} (hsize : digestSizeFor algorithm = .ok size)
    (key data : Bytes) : computeHmac macs algorithm key data = .ok (macs.hmac algorithm key data) :=
  if_pos (digestSizeFor_bounds hsize).1

def hmacNew (algorithm : UInt32) (key : Bytes) : Option HmacHandle :=
  ffiPointer do
    let _ ← digestSizeFor algorithm
    return { algorithm, key, data := [] }

def hmacReset (handle : HmacHandle) : Int × HmacHandle :=
  ffiStatus handle (.ok { handle with data := [] })

def hmacUpdate (handle : HmacHandle) (input : Bytes) : Int × HmacHandle :=
  ffiStatus handle (.ok { handle with data := handle.data ++ input })

-- The data stay.
def hmacFinal (macs : Macs) (handle : HmacHandle) (output : Bytes) (outputCapacity : Nat) : Nat × Bytes :=
  match computeHmac macs handle.algorithm handle.key handle.data with
  | .error error => (ffiLength (.error error), output)
  | .ok digest =>
      let (written, output) := copyOutput output outputCapacity digest
      (ffiLength written, output)

end Hmac

section Cipher

-- The block modes under crypt_cipher: padding is PKCS#7, the stream is CTR with
-- AES-256. Keys and IVs of the algorithm's own sizes are accepted.
structure Ciphers where
  newFromSlices : UInt32 → Bytes → Bytes → Except String Unit
  encryptPaddedVec : UInt32 → Bytes → Bytes → Bytes → Bytes
  decryptPaddedVec : UInt32 → Bytes → Bytes → Bytes → Except String Bytes
  applyKeystream : Bytes → Bytes → Bytes → Bytes
  sizes : ∀ algorithm key iv, cipherKeySize algorithm = .ok key.length → cipherIvSize algorithm = .ok iv.length →
    newFromSlices algorithm key iv = .ok ()
  decrypt_encrypt : ∀ algorithm key iv data,
    decryptPaddedVec algorithm key iv (encryptPaddedVec algorithm key iv data) = .ok data
  padded : ∀ algorithm key iv data, data.length < (encryptPaddedVec algorithm key iv data).length
  keystream_keystream : ∀ key iv data, applyKeystream key iv (applyKeystream key iv data) = data
  keystream_length : ∀ key iv data, (applyKeystream key iv data).length = data.length

structure CipherHandle where
  algorithm : UInt32
  key : Bytes
  iv : Bytes
  data : Bytes
  encrypt : Bool
deriving DecidableEq, Repr

def cryptCipher (ciphers : Ciphers) (handle : CipherHandle) : Except String Bytes :=
  if handle.algorithm ∈ [AES_128_CBC, AES_192_CBC, AES_256_CBC, DES_CBC, DES_EDE3_CBC, BF_CBC] then do
    ciphers.newFromSlices handle.algorithm handle.key handle.iv
    if handle.encrypt then
      return ciphers.encryptPaddedVec handle.algorithm handle.key handle.iv handle.data
    else
      ciphers.decryptPaddedVec handle.algorithm handle.key handle.iv handle.data
  else if handle.algorithm = AES_256_CTR then do
    ciphers.newFromSlices handle.algorithm handle.key handle.iv
    return ciphers.applyKeystream handle.key handle.iv handle.data
  else .error "unsupported cipher"

-- The ciphertext of a message.
def ciphertextOf (ciphers : Ciphers) (algorithm : UInt32) (key iv data : Bytes) : Bytes :=
  if algorithm = AES_256_CTR then ciphers.applyKeystream key iv data
  else ciphers.encryptPaddedVec algorithm key iv data

theorem ciphertextOf_eq_nil {ciphers : Ciphers} {algorithm : UInt32} {key iv data : Bytes} :
    ciphertextOf ciphers algorithm key iv data = [] ↔ algorithm = AES_256_CTR ∧ data = [] := by
  unfold ciphertextOf
  by_cases hctr : algorithm = AES_256_CTR
  · rw [if_pos hctr, ← List.length_eq_zero_iff, ciphers.keystream_length, List.length_eq_zero_iff]
    exact ⟨fun h => ⟨hctr, h⟩, fun h => h.2⟩
  · rw [if_neg hctr]
    have hpadded := ciphers.padded algorithm key iv data
    constructor
    · intro hnil
      rw [hnil] at hpadded
      exact absurd hpadded (Nat.not_lt_zero _)
    · rintro ⟨he, _⟩
      exact absurd he hctr

theorem supported_cases {algorithm : UInt32} (hsupported : isCipherSupported algorithm = true) :
    algorithm = AES_256_CTR ∨
      algorithm ≠ AES_256_CTR ∧
        algorithm ∈ [AES_128_CBC, AES_192_CBC, AES_256_CBC, DES_CBC, DES_EDE3_CBC, BF_CBC] := by
  by_cases hctr : algorithm = AES_256_CTR
  · exact .inl hctr
  · right
    refine ⟨hctr, ?_⟩
    simpa [isCipherSupported, hctr] using hsupported

section Crypt

variable {ciphers : Ciphers} {algorithm : UInt32} {key iv : Bytes} (hsupported : isCipherSupported algorithm = true)
  (hkey : cipherKeySize algorithm = .ok key.length) (hiv : cipherIvSize algorithm = .ok iv.length) (data : Bytes)
include hsupported hkey hiv

theorem cryptCipher_encrypt :
    cryptCipher ciphers ⟨algorithm, key, iv, data, true⟩ = .ok (ciphertextOf ciphers algorithm key iv data) := by
  have hsizes := ciphers.sizes algorithm key iv hkey hiv
  rcases supported_cases hsupported with rfl | ⟨hctr, hcbc⟩
  · show (ciphers.newFromSlices AES_256_CTR key iv >>= _) = _
    rw [hsizes]
    rfl
  · simp only [cryptCipher, ciphertextOf, if_pos hcbc, if_neg hctr, hsizes]
    rfl

theorem cryptCipher_decrypt :
    cryptCipher ciphers ⟨algorithm, key, iv, ciphertextOf ciphers algorithm key iv data, false⟩ = .ok data := by
  have hsizes := ciphers.sizes algorithm key iv hkey hiv
  rcases supported_cases hsupported with rfl | ⟨hctr, hcbc⟩
  · show (ciphers.newFromSlices AES_256_CTR key iv >>= _) = _
    rw [hsizes]
    exact congrArg Except.ok (ciphers.keystream_keystream key iv data)
  · simp only [cryptCipher, ciphertextOf, if_pos hcbc, if_neg hctr, hsizes]
    exact ciphers.decrypt_encrypt algorithm key iv data

end Crypt

def cipherNew (algorithm : UInt32) (key : Bytes) (encrypt : Int) : Option CipherHandle :=
  ffiPointer do
    if !isCipherSupported algorithm then
      throw "unsupported cipher"
    let expected ← cipherKeySize algorithm
    if key.length < expected then
      throw "insufficient cipher key"
    return { algorithm, key := key.take expected, iv := [], data := [], encrypt := encrypt != 0 }

theorem cipherNew_eq {algorithm : UInt32} {size : Nat} {key : Bytes} (hsupported : isCipherSupported algorithm = true)
    (hsize : cipherKeySize algorithm = .ok size) (hkey : size ≤ key.length) (encrypt : Int) :
    cipherNew algorithm key encrypt = some ⟨algorithm, key.take size, [], [], encrypt != 0⟩ := by
  have hlong : ¬key.length < size := by omega
  simp only [cipherNew, hsupported, hsize]
  show ffiPointer (if key.length < size then _ else _) = _
  rw [if_neg hlong]
  rfl

def cipherReset (handle : CipherHandle) (iv : Bytes) : Int × CipherHandle :=
  ffiStatus handle do
    let expected ← cipherIvSize handle.algorithm
    if iv.length < expected then
      throw "insufficient cipher IV"
    return { handle with iv := iv.take expected, data := [] }

theorem cipherReset_eq {handle : CipherHandle} {size : Nat} {iv : Bytes}
    (hsize : cipherIvSize handle.algorithm = .ok size) (hiv : size ≤ iv.length) :
    cipherReset handle iv = (1, { handle with iv := iv.take size, data := [] }) := by
  have hlong : ¬iv.length < size := by omega
  simp only [cipherReset, hsize]
  show ffiStatus handle (if iv.length < size then _ else _) = _
  rw [if_neg hlong]
  rfl

theorem cipherReset_cases (handle : CipherHandle) (iv : Bytes) :
    cipherReset handle iv = (0, handle) ∨
      ∃ size, cipherReset handle iv = (1, { handle with iv := iv.take size, data := [] }) := by
  cases hsize : cipherIvSize handle.algorithm with
  | error message =>
      left
      rw [cipherReset, hsize]
      rfl
  | ok size =>
      by_cases hshort : iv.length < size
      · left
        rw [cipherReset, hsize]
        show ffiStatus handle (if iv.length < size then _ else _) = _
        rw [if_pos hshort]
        rfl
      · exact .inr ⟨size, cipherReset_eq hsize (by omega)⟩

def cipherUpdate (handle : CipherHandle) (input : Bytes) : Int × CipherHandle :=
  ffiStatus handle (.ok { handle with data := handle.data ++ input })

def cipherFinal (ciphers : Ciphers) (handle : CipherHandle) (output : Bytes) (outputCapacity : Nat) : Nat × Bytes :=
  match cryptCipher ciphers handle with
  | .error error => (ffiLength (.error error), output)
  | .ok result =>
      let (written, output) := copyOutput output outputCapacity result
      (ffiLength written, output)

end Cipher

end OpenvpnConnect.Crypto
