import OpenvpnConnect.Crypto.Cipher

namespace OpenvpnConnect.Crypto

def IV_LEN : Nat := 12
def AUTH_TAG_LEN : Nat := 16

def isAeadSupported (algorithm : UInt32) : Bool :=
  [AES_128_GCM, AES_192_GCM, AES_256_GCM, CHACHA20_POLY1305].contains algorithm

-- A pointer may be null; what it points to is at least as long as the length
-- that comes with it.
abbrev Pointer := Option Bytes

def inputSlice (input : Pointer) (len : Nat) : Except String Bytes :=
  if len = 0 then .ok []
  else
    match input with
    | none => .error "null input"
    | some input => .ok (input.take len)

def outputSlice (output : Pointer) (len : Nat) : Except String Unit :=
  if len = 0 then .ok ()
  else
    match output with
    | none => .error "null output"
    | some _ => .ok ()

-- What a call writes to, also where it fails.
structure Buffers where
  output : Pointer
  tag : Pointer
deriving DecidableEq, Repr

def Buffers.setOutput (buffers : Buffers) (value : Bytes) : Buffers :=
  { buffers with output := buffers.output.map (memcpy · 0 value) }

def Buffers.setTag (buffers : Buffers) (value : Bytes) : Buffers :=
  { buffers with tag := buffers.tag.map (memcpy · 0 value) }

-- The AEAD ciphers under encrypt_aead and decrypt_aead; a buffer is changed in
-- place. Keys of the algorithm's own size are accepted, and what has been
-- encrypted is decrypted again.
structure Aeads where
  newFromSlice : UInt32 → Bytes → Except String Unit
  encryptInPlaceDetached : UInt32 → Bytes → Bytes → Bytes → Bytes → Except String Bytes × Bytes
  decryptInPlaceDetached : UInt32 → Bytes → Bytes → Bytes → Bytes → Bytes → Except String Unit × Bytes
  sizes : ∀ algorithm key, cipherKeySize algorithm = .ok key.length → newFromSlice algorithm key = .ok ()
  tag_length : ∀ {algorithm key nonce additionalData buffer tag after},
    encryptInPlaceDetached algorithm key nonce additionalData buffer = (.ok tag, after) → tag.length = AUTH_TAG_LEN
  buffer_length : ∀ {algorithm key nonce additionalData buffer result after},
    encryptInPlaceDetached algorithm key nonce additionalData buffer = (result, after) →
      after.length = buffer.length
  decrypt_encrypt : ∀ {algorithm key nonce additionalData buffer tag after},
    encryptInPlaceDetached algorithm key nonce additionalData buffer = (.ok tag, after) →
      decryptInPlaceDetached algorithm key nonce additionalData after tag = (.ok (), buffer)

structure AeadHandle where
  algorithm : UInt32
  key : Bytes
  encrypt : Bool
deriving DecidableEq, Repr

def aeadNew (algorithm : UInt32) (key : Pointer) (keyLen : Nat) (encrypt : Int) : Option AeadHandle :=
  ffiPointer do
    if !isAeadSupported algorithm then
      throw "unsupported AEAD cipher"
    let expected ← cipherKeySize algorithm
    let key ← inputSlice key keyLen
    if key.length < expected then
      throw "insufficient AEAD key"
    return { algorithm, key := key.take expected, encrypt := encrypt != 0 }

-- The nonce of another length is a panic, which is caught as an error is.
def checked (aeads : Aeads) (handle : AeadHandle) (nonce : Bytes) : Except String Unit :=
  if !isAeadSupported handle.algorithm then .error "unsupported AEAD cipher"
  else
    match aeads.newFromSlice handle.algorithm handle.key with
    | .error error => .error error
    | .ok _ => if nonce.length ≠ IV_LEN then .error "panicked" else .ok ()

def encryptAead (aeads : Aeads) (handle : AeadHandle) (buffer nonce additionalData : Bytes) :
    Except String Bytes × Bytes :=
  match checked aeads handle nonce with
  | .error error => (.error error, buffer)
  | .ok _ => aeads.encryptInPlaceDetached handle.algorithm handle.key nonce additionalData buffer

def decryptAead (aeads : Aeads) (handle : AeadHandle) (buffer nonce tag additionalData : Bytes) :
    Except String Unit × Bytes :=
  match checked aeads handle nonce with
  | .error error => (.error error, buffer)
  | .ok _ => aeads.decryptInPlaceDetached handle.algorithm handle.key nonce additionalData buffer tag

-- The pointers and the lengths of a packet.
structure Packet where
  input : Pointer
  inputLen : Nat
  outputCapacity : Nat
  nonce : Pointer
  nonceLen : Nat
  tagLen : Nat
  additionalData : Pointer
  additionalDataLen : Nat
deriving DecidableEq, Repr

-- The status, and the buffers afterwards. The output has the input in it before
-- the nonce is looked at.
def aeadEncrypt (aeads : Aeads) (handle : AeadHandle) (packet : Packet) (buffers : Buffers) : Int × Buffers :=
  if !handle.encrypt || packet.outputCapacity < packet.inputLen || packet.tagLen < 16 then (0, buffers)
  else
    match inputSlice packet.input packet.inputLen, outputSlice buffers.output packet.outputCapacity with
    | .ok input, .ok _ =>
        match inputSlice packet.nonce packet.nonceLen,
          inputSlice packet.additionalData packet.additionalDataLen with
        | .ok nonce, .ok additionalData =>
            let (result, buffer) := encryptAead aeads handle input nonce additionalData
            let buffers := buffers.setOutput buffer
            match result, outputSlice buffers.tag packet.tagLen with
            | .ok authTag, .ok _ => (1, buffers.setTag authTag)
            | _, _ => (0, buffers)
        | _, _ => (0, buffers.setOutput input)
    | _, _ => (0, buffers)

def aeadDecrypt (aeads : Aeads) (handle : AeadHandle) (packet : Packet) (buffers : Buffers) : Int × Buffers :=
  if handle.encrypt || packet.outputCapacity < packet.inputLen || packet.tagLen < 16 then (0, buffers)
  else
    match inputSlice packet.input packet.inputLen, outputSlice buffers.output packet.outputCapacity with
    | .ok input, .ok _ =>
        match inputSlice packet.nonce packet.nonceLen, inputSlice buffers.tag packet.tagLen,
          inputSlice packet.additionalData packet.additionalDataLen with
        | .ok nonce, .ok tag, .ok additionalData =>
            let (result, buffer) := decryptAead aeads handle input nonce (tag.take 16) additionalData
            let buffers := buffers.setOutput buffer
            match result with
            | .ok _ => (1, buffers)
            | .error _ => (0, buffers)
        | _, _, _ => (0, buffers.setOutput input)
    | _, _ => (0, buffers)

-- Core's count of what may still be encrypted under a key.
structure UsageLimits (υ : Type) where
  unlimited : υ
  limited : UInt32 → υ
  update : υ → Nat → υ

structure CipherContextAEAD (υ : Type) where
  handle : Option AeadHandle
  usageLimit : υ
deriving DecidableEq, Repr

-- What Core passes with a packet.
structure AeadCall where
  input : Pointer
  length : Nat
  iv : Pointer
  additionalData : Pointer
  additionalDataLen : Nat
deriving DecidableEq, Repr

def AeadCall.packet (call : AeadCall) : Packet where
  input := call.input
  inputLen := call.length
  outputCapacity := call.length
  nonce := call.iv
  nonceLen := IV_LEN
  tagLen := AUTH_TAG_LEN
  additionalData := call.additionalData
  additionalDataLen := call.additionalDataLen

namespace CipherContextAEAD

variable {υ : Type} (limits : UsageLimits υ) (aeads : Aeads)

def new : CipherContextAEAD υ := ⟨none, limits.unlimited⟩

-- The old handle is gone where the new one is refused, and the limit stays.
def init (algorithm : UInt32) (key : Pointer) (keySize : Nat) (mode : Int) (context : CipherContextAEAD υ) :
    Except String Unit × CipherContextAEAD υ :=
  match aeadNew algorithm key keySize (if mode = ENCRYPT then 1 else 0) with
  | none => (.error "Rust AEAD initialization failed", { context with handle := none })
  | some handle => (.ok (), ⟨some handle, limits.limited algorithm⟩)

def encrypt (call : AeadCall) (buffers : Buffers) (context : CipherContextAEAD υ) :
    Except String Unit × Buffers × CipherContextAEAD υ :=
  match context.handle with
  | none => (.error "Rust AEAD encryption failed", buffers, context)
  | some handle =>
      let (status, buffers) := aeadEncrypt aeads handle call.packet buffers
      if status = 0 then (.error "Rust AEAD encryption failed", buffers, context)
      else
        let usageLimit := limits.update context.usageLimit (call.length + call.additionalDataLen)
        (.ok (), buffers, { context with usageLimit })

def decrypt (call : AeadCall) (buffers : Buffers) (context : CipherContextAEAD υ) : Bool × Buffers :=
  match context.handle, buffers.tag with
  | some handle, some _ =>
      let (status, buffers) := aeadDecrypt aeads handle call.packet buffers
      (decide (status ≠ 0), buffers)
  | _, _ => (false, buffers)

-- The new object, and what is left of the old one.
def moved (other : CipherContextAEAD υ) : CipherContextAEAD υ × CipherContextAEAD υ :=
  (other, { other with handle := none })

end CipherContextAEAD

section Sealed

variable {aeads : Aeads} {packet : Packet} {buffers after : Buffers} {status : Int}

theorem inputSlice_length {input : Pointer} {value : Bytes} {len : Nat}
    (hlong : ∀ bytes, input = some bytes → len ≤ bytes.length) (hslice : inputSlice input len = .ok value) :
    value.length = len := by
  unfold inputSlice at hslice
  by_cases hzero : len = 0
  · rw [if_pos hzero] at hslice
    obtain rfl := Except.ok.inj hslice
    exact hzero.symm
  · rw [if_neg hzero] at hslice
    cases input with
    | none => cases hslice
    | some bytes =>
        obtain rfl := Except.ok.inj hslice
        rw [List.length_take, Nat.min_eq_left (hlong bytes rfl)]

-- What has been written is read again.
theorem inputSlice_written {pointer : Pointer} {value : Bytes} {len : Nat} (hlen : value.length = len)
    (hslice : outputSlice pointer len = .ok ()) :
    inputSlice (pointer.map (memcpy · 0 value)) len = .ok value := by
  by_cases hzero : len = 0
  · rw [List.length_eq_zero_iff.mp (hlen.trans hzero)]
    exact if_pos hzero
  · cases pointer with
    | none =>
        rw [outputSlice, if_neg hzero] at hslice
        cases hslice
    | some output =>
        rw [Option.map_some, inputSlice, if_neg hzero]
        simp [memcpy, ← hlen]

-- What a packet has that has been encrypted.
structure Encrypted (aeads : Aeads) (handle : AeadHandle) (packet : Packet) (buffers after : Buffers)
    (plaintext iv header authTag ciphertext : Bytes) : Prop where
  encrypt : handle.encrypt = true
  room : packet.inputLen ≤ packet.outputCapacity
  input : inputSlice packet.input packet.inputLen = .ok plaintext
  output : outputSlice buffers.output packet.outputCapacity = .ok ()
  nonce : inputSlice packet.nonce packet.nonceLen = .ok iv
  additionalData : inputSlice packet.additionalData packet.additionalDataLen = .ok header
  checked : checked aeads handle iv = .ok ()
  tagged : aeads.encryptInPlaceDetached handle.algorithm handle.key iv header plaintext = (.ok authTag, ciphertext)
  tag : outputSlice buffers.tag packet.tagLen = .ok ()
  after : after = (buffers.setOutput ciphertext).setTag authTag

theorem aeadEncrypt_cases {handle : AeadHandle}
    (hencrypt : aeadEncrypt aeads handle packet buffers = (status, after))
    (hstatus : status ≠ 0) :
    ∃ plaintext iv header authTag ciphertext,
      Encrypted aeads handle packet buffers after plaintext iv header authTag ciphertext := by
  unfold aeadEncrypt at hencrypt
  split at hencrypt
  · cases hencrypt
    exact absurd rfl hstatus
  · rename_i hallowed
    simp only [Bool.or_eq_true, Bool.not_eq_true', decide_eq_true_eq, not_or, Bool.not_eq_false,
      Nat.not_lt] at hallowed
    obtain ⟨⟨hdirection, hroom⟩, _⟩ := hallowed
    split at hencrypt
    · rename_i plaintext _ hinput houtput
      split at hencrypt
      · rename_i iv header hnonce hadditional
        cases hchecked : checked aeads handle iv with
        | error error =>
            simp only [encryptAead, hchecked] at hencrypt
            cases hencrypt
            exact absurd rfl hstatus
        | ok _ =>
            simp only [encryptAead, hchecked] at hencrypt
            split at hencrypt
            · rename_i authTag _ htagged htag
              cases hencrypt
              exact ⟨plaintext, iv, header, authTag, _, hdirection, hroom, hinput, houtput, hnonce, hadditional,
                hchecked, Prod.ext htagged rfl, htag, rfl⟩
            · cases hencrypt
              exact absurd rfl hstatus
      · cases hencrypt
        exact absurd rfl hstatus
    · cases hencrypt
      exact absurd rfl hstatus

end Sealed

section Arrival

-- A received packet has what a sent one has become: the ciphertext as input, the
-- tag, and the same nonce and additional data.
structure Arrives (sent : AeadCall) (after : Buffers) (received : AeadCall) (buffers : Buffers) : Prop where
  length : received.length = sent.length
  input : inputSlice received.input received.length = inputSlice after.output sent.length
  iv : inputSlice received.iv IV_LEN = inputSlice sent.iv IV_LEN
  additionalData : inputSlice received.additionalData received.additionalDataLen =
    inputSlice sent.additionalData sent.additionalDataLen
  tag : inputSlice buffers.tag AUTH_TAG_LEN = inputSlice after.tag AUTH_TAG_LEN
  output : outputSlice buffers.output received.length = .ok ()

variable {aeads : Aeads} {algorithm : UInt32} {key : Bytes} {sent received : AeadCall}
  {before after buffers : Buffers} {status : Int}

theorem aeadDecrypt_of_arrives
    (hencrypt : aeadEncrypt aeads ⟨algorithm, key, true⟩ sent.packet before = (status, after))
    (hstatus : status ≠ 0)
    (hlong : ∀ input, sent.input = some input → sent.length ≤ input.length)
    (harrives : Arrives sent after received buffers) :
    ∃ plaintext tag, inputSlice sent.input sent.length = .ok plaintext ∧ buffers.tag = some tag ∧
      aeadDecrypt aeads ⟨algorithm, key, false⟩ received.packet buffers = (1, buffers.setOutput plaintext) := by
  obtain ⟨plaintext, iv, header, authTag, ciphertext, hsealed⟩ := aeadEncrypt_cases hencrypt hstatus
  have hplaintext : plaintext.length = sent.length := inputSlice_length hlong hsealed.input
  have hciphertext : ciphertext.length = sent.length := by
    rw [aeads.buffer_length hsealed.tagged, hplaintext]
  have hinput : inputSlice received.input received.length = .ok ciphertext := by
    rw [harrives.input, hsealed.after]
    exact inputSlice_written hciphertext hsealed.output
  have htag : inputSlice buffers.tag AUTH_TAG_LEN = .ok authTag := by
    rw [harrives.tag, hsealed.after]
    exact inputSlice_written (aeads.tag_length hsealed.tagged) hsealed.tag
  have hheader : inputSlice received.additionalData received.additionalDataLen = .ok header := by
    rw [harrives.additionalData]
    exact hsealed.additionalData
  have hiv : inputSlice received.iv IV_LEN = .ok iv := by
    rw [harrives.iv]
    exact hsealed.nonce
  have hwhole : authTag.take 16 = authTag :=
    List.take_of_length_le (Nat.le_of_eq (aeads.tag_length hsealed.tagged))
  have hdecrypt : decryptAead aeads ⟨algorithm, key, false⟩ ciphertext iv authTag header =
      (.ok (), plaintext) := by
    rw [decryptAead]
    show (match checked aeads ⟨algorithm, key, true⟩ iv with | .error error => _ | .ok _ => _) = _
    rw [hsealed.checked]
    exact aeads.decrypt_encrypt hsealed.tagged
  obtain ⟨tag, hsome⟩ : ∃ tag, buffers.tag = some tag := by
    cases hnone : buffers.tag with
    | none =>
        rw [hnone] at htag
        cases htag
    | some tag => exact ⟨tag, rfl⟩
  refine ⟨plaintext, tag, hsealed.input, hsome, ?_⟩
  unfold aeadDecrypt AeadCall.packet
  simp only [Bool.false_or, hinput, hiv, htag, hheader, harrives.output, hwhole, hdecrypt]
  rw [if_neg (by simp [AUTH_TAG_LEN])]

end Arrival

section Zero

-- The keystream and the tag of AES-128-GCM for a key, a nonce and a block of
-- zeros.
def gcmKeystream : Bytes := [3, 136, 218, 206, 96, 182, 163, 146, 243, 40, 194, 185, 113, 178, 254, 120]

def gcmTag : Bytes := [171, 110, 71, 212, 44, 236, 19, 189, 245, 58, 103, 178, 18, 87, 189, 223]

def xorKeystream (data : Bytes) : Bytes := data.mapIdx fun index byte => byte ^^^ gcmKeystream.getD index 0

theorem xorKeystream_xorKeystream (data : Bytes) : xorKeystream (xorKeystream data) = data := by
  apply List.ext_getElem
  · simp [xorKeystream]
  · intro index _ _
    simp only [xorKeystream]
    rw [List.getElem_mapIdx, List.getElem_mapIdx, UInt8.xor_assoc, UInt8.xor_self, UInt8.xor_zero]

def zeroAeads : Aeads where
  newFromSlice _ _ := .ok ()
  encryptInPlaceDetached _ _ _ _ buffer := (.ok gcmTag, xorKeystream buffer)
  decryptInPlaceDetached _ _ _ _ buffer tag :=
    if tag = gcmTag then (.ok (), xorKeystream buffer) else (.error "aead::Error", buffer)
  sizes _ _ _ := rfl
  tag_length htagged := by
    obtain rfl := Except.ok.inj (Prod.mk.inj htagged).1
    rfl
  buffer_length htagged := by
    obtain ⟨_, rfl⟩ := Prod.mk.inj htagged
    exact List.length_mapIdx
  decrypt_encrypt htagged := by
    obtain ⟨htag, rfl⟩ := Prod.mk.inj htagged
    obtain rfl := Except.ok.inj htag
    rw [if_pos rfl, xorKeystream_xorKeystream]

end Zero

end OpenvpnConnect.Crypto
