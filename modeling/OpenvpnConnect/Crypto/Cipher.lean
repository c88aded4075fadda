import OpenvpnConnect.Crypto.Backend
import Mathlib.Data.List.Forall2

namespace OpenvpnConnect.Crypto

def DECRYPT : Int := 0
def ENCRYPT : Int := 1

-- The table of OpenVPN's algorithms, as far as the ciphers that the backend
-- supports are in it.
structure CryptoAlgs where
  keyLength : UInt32 → Nat
  ivLength : UInt32 → Nat
  keySize : ∀ algorithm, isCipherSupported algorithm → cipherKeySize algorithm = .ok (keyLength algorithm)
  ivSize : ∀ algorithm, isCipherSupported algorithm → cipherIvSize algorithm = .ok (ivLength algorithm)

structure CipherContext where
  handle : Option CipherHandle
  algorithm : UInt32
deriving DecidableEq, Repr

-- `key` is what the key pointer points to, at least the length that is read.
def CipherContext.init (algs : CryptoAlgs) (algorithm : UInt32) (key : Bytes) (mode : Int) :
    Except String CipherContext :=
  match cipherNew algorithm (key.take (algs.keyLength algorithm)) (if mode = ENCRYPT then 1 else 0) with
  | none => .error "Rust cipher initialization failed"
  | some handle => .ok ⟨some handle, algorithm⟩

def CipherContext.reset (algs : CryptoAlgs) (context : CipherContext) (iv : Bytes) :
    Except String Unit × CipherContext :=
  match context.handle with
  | none => (.error "Rust cipher reset failed", context)
  | some handle =>
      let (status, handle) := cipherReset handle (iv.take (algs.ivLength context.algorithm))
      (if status = 0 then .error "Rust cipher reset failed" else .ok (), { context with handle := some handle })

def CipherContext.update (context : CipherContext) (input : Bytes) : Bool × CipherContext :=
  match context.handle with
  | none => (false, context)
  | some handle =>
      let (status, handle) := cipherUpdate handle input
      (decide (status ≠ 0), { context with handle := some handle })

def CipherContext.final (ciphers : Ciphers) (context : CipherContext) (output : Bytes) (outputSize outputAcc : Nat) :
    Bool × Bytes × Nat :=
  match context.handle with
  | none => (false, output, outputAcc)
  | some handle =>
      let (written, output) := cipherFinal ciphers handle output outputSize
      if written = 0 then (false, output, outputAcc) else (true, output, outputAcc + written)

section Message

def CipherContext.updates (context : CipherContext) : List Bytes → Bool × CipherContext
  | [] => (true, context)
  | input :: rest =>
      let (updated, context) := context.update input
      if updated then context.updates rest else (false, context)

-- One message: reset, the updates and final. The result is what final has
-- written, or nothing where a call has failed.
def CipherContext.process (ciphers : Ciphers) (algs : CryptoAlgs) (context : CipherContext) (iv : Bytes)
    (inputs : List Bytes) (output : Bytes) : Option Bytes × CipherContext :=
  match context.reset algs iv with
  | (.error _, context) => (none, context)
  | (.ok (), context) =>
      match context.updates inputs with
      | (false, context) => (none, context)
      | (true, context) =>
          let (finished, output, outputAcc) := context.final ciphers output output.length 0
          (if finished then some (output.take outputAcc) else none, context)

-- Any other use of a context.
inductive Call
  | Reset (iv : Bytes)
  | Update (input : Bytes)
  | Final (output : Bytes)
deriving DecidableEq, Repr

def CipherContext.call (algs : CryptoAlgs) (context : CipherContext) : Call → CipherContext
  | .Reset iv => (context.reset algs iv).2
  | .Update input => (context.update input).2
  | .Final _ => context

-- How the data of a message are given to update.
abbrev Splitting := { split : Bytes → List Bytes // ∀ data, (split data).flatten = data }

-- A message with the ways in which it is encrypted and decrypted, and with what
-- the two contexts were used for since the message before.
structure Message where
  iv : Bytes
  data : Bytes
  encryptSplit : Splitting
  encryptOutput : Bytes
  encryptBefore : List Call
  decryptSplit : Splitting
  decryptOutput : Bytes
  decryptBefore : List Call

-- What becomes of each message: its ciphertext, and what that is decrypted to.
def exchange (ciphers : Ciphers) (algs : CryptoAlgs) (encrypting decrypting : CipherContext) :
    List Message → List (Option Bytes × Option Bytes)
  | [] => []
  | message :: rest =>
      let (ciphertext, encrypting) := (message.encryptBefore.foldl (CipherContext.call algs) encrypting).process
        ciphers algs message.iv (message.encryptSplit.val message.data) message.encryptOutput
      let decrypting := message.decryptBefore.foldl (CipherContext.call algs) decrypting
      match ciphertext with
      | none => (none, none) :: exchange ciphers algs encrypting decrypting rest
      | some bytes =>
          let (plaintext, decrypting) := decrypting.process ciphers algs message.iv
            (message.decryptSplit.val bytes) message.decryptOutput
          (ciphertext, plaintext) :: exchange ciphers algs encrypting decrypting rest

end Message

section Keyed

variable {ciphers : Ciphers} {algs : CryptoAlgs} {algorithm : UInt32} {key : Bytes} {encrypt : Bool}

-- The context is for this algorithm, key and direction, whatever it was used for.
def CipherContext.Keyed (algorithm : UInt32) (key : Bytes) (encrypt : Bool) (context : CipherContext) : Prop :=
  ∃ iv data, context = ⟨some ⟨algorithm, key, iv, data, encrypt⟩, algorithm⟩

theorem CipherContext.init_keyed (hsupported : isCipherSupported algorithm = true) {pointer : Bytes}
    (hpointer : algs.keyLength algorithm ≤ pointer.length) (mode : Int) : ∃ context,
    CipherContext.init algs algorithm pointer mode = .ok context ∧
      context.Keyed algorithm (pointer.take (algs.keyLength algorithm)) (decide (mode = ENCRYPT)) := by
  have hsize := algs.keySize algorithm hsupported
  have hlength : algs.keyLength algorithm ≤ (pointer.take (algs.keyLength algorithm)).length := by
    rw [List.length_take]
    omega
  refine ⟨⟨some ⟨algorithm, pointer.take (algs.keyLength algorithm), [], [], decide (mode = ENCRYPT)⟩, algorithm⟩,
    ?_, [], [], rfl⟩
  rw [init, cipherNew_eq hsupported hsize hlength, List.take_take, Nat.min_self]
  by_cases hmode : mode = ENCRYPT
  · simp [hmode]
  · simp [hmode]

theorem CipherContext.Keyed.call {context : CipherContext} (hkeyed : context.Keyed algorithm key encrypt)
    (call : Call) : (context.call algs call).Keyed algorithm key encrypt := by
  obtain ⟨before, data, rfl⟩ := hkeyed
  cases call with
  | Reset iv =>
      rcases cipherReset_cases ⟨algorithm, key, before, data, encrypt⟩ (iv.take (algs.ivLength algorithm)) with
        hreset | ⟨size, hreset⟩
      · refine ⟨before, data, ?_⟩
        simp [CipherContext.call, CipherContext.reset, hreset]
      · refine ⟨(iv.take (algs.ivLength algorithm)).take size, [], ?_⟩
        simp [CipherContext.call, CipherContext.reset, hreset]
  | Update input => exact ⟨before, data ++ input, rfl⟩
  | Final output => exact ⟨before, data, rfl⟩

theorem CipherContext.Keyed.calls (algs : CryptoAlgs) {context : CipherContext}
    (hkeyed : context.Keyed algorithm key encrypt) (calls : List Call) :
    (calls.foldl (CipherContext.call algs) context).Keyed algorithm key encrypt := by
  induction calls generalizing context with
  | nil => exact hkeyed
  | cons call rest ih => exact ih (hkeyed.call call)

theorem CipherContext.updates_eq (iv data : Bytes) (inputs : List Bytes) :
    CipherContext.updates ⟨some ⟨algorithm, key, iv, data, encrypt⟩, algorithm⟩ inputs =
      (true, ⟨some ⟨algorithm, key, iv, data ++ inputs.flatten, encrypt⟩, algorithm⟩) := by
  induction inputs generalizing data with
  | nil => rw [List.flatten_nil, List.append_nil]; rfl
  | cons input rest ih =>
      rw [List.flatten_cons, ← List.append_assoc]
      exact ih (data ++ input)

-- What final writes, where there is room for it, is told from a failure by its
-- length.
theorem CipherContext.final_eq {iv data result output : Bytes}
    (hcrypt : cryptCipher ciphers ⟨algorithm, key, iv, data, encrypt⟩ = .ok result)
    (hroom : result.length ≤ output.length) :
    CipherContext.final ciphers ⟨some ⟨algorithm, key, iv, data, encrypt⟩, algorithm⟩ output output.length 0 =
      if result = [] then (false, output, 0) else (true, result ++ output.drop result.length, result.length) := by
  simp only [CipherContext.final, cipherFinal, hcrypt, copyOutput_ok output hroom, ffiLength]
  by_cases hnil : result = []
  · rw [hnil]
    rfl
  · rw [if_neg hnil, if_neg (by rwa [List.length_eq_zero_iff]), Nat.zero_add]

-- A message starts from nothing: what the context did before it does not matter.
theorem CipherContext.Keyed.process {context : CipherContext} (hkeyed : context.Keyed algorithm key encrypt)
    (hsupported : isCipherSupported algorithm = true) {iv data result output : Bytes} {inputs : List Bytes}
    (hiv : iv.length = algs.ivLength algorithm) (hinputs : inputs.flatten = data)
    (hcrypt : cryptCipher ciphers ⟨algorithm, key, iv, data, encrypt⟩ = .ok result)
    (hroom : result.length ≤ output.length) : ∃ after,
    context.process ciphers algs iv inputs output = (if result = [] then none else some result, after) ∧
      after.Keyed algorithm key encrypt := by
  obtain ⟨before, old, rfl⟩ := hkeyed
  refine ⟨⟨some ⟨algorithm, key, iv, data, encrypt⟩, algorithm⟩, ?_, iv, data, rfl⟩
  have hreset : cipherReset ⟨algorithm, key, before, old, encrypt⟩ (iv.take (algs.ivLength algorithm)) =
      (1, ⟨algorithm, key, iv, [], encrypt⟩) := by
    rw [← hiv, List.take_length, cipherReset_eq (algs.ivSize algorithm hsupported) (Nat.le_of_eq hiv.symm), ← hiv,
      List.take_length]
  have hupdates : CipherContext.updates ⟨some ⟨algorithm, key, iv, [], encrypt⟩, algorithm⟩ inputs =
      (true, ⟨some ⟨algorithm, key, iv, data, encrypt⟩, algorithm⟩) := by
    rw [CipherContext.updates_eq, List.nil_append, hinputs]
  simp only [CipherContext.process, CipherContext.reset, hreset]
  show (match CipherContext.updates ⟨some ⟨algorithm, key, iv, [], encrypt⟩, algorithm⟩ inputs with
    | (false, context) => (none, context)
    | (true, context) => _) = _
  rw [hupdates]
  simp only [CipherContext.final_eq hcrypt hroom]
  by_cases hnil : result = []
  · rw [if_pos hnil, if_pos hnil]
    rfl
  · rw [if_neg hnil, if_neg hnil]
    simp

end Keyed

section Exchange

variable {ciphers : Ciphers} {algs : CryptoAlgs} {algorithm : UInt32} {key : Bytes}

-- The IV has the algorithm's length, and the buffers are large enough.
structure Message.Fits (ciphers : Ciphers) (algs : CryptoAlgs) (algorithm : UInt32) (key : Bytes)
    (message : Message) : Prop where
  iv : message.iv.length = algs.ivLength algorithm
  encryptOutput :
    (ciphertextOf ciphers algorithm key message.iv message.data).length ≤ message.encryptOutput.length
  decryptOutput : message.data.length ≤ message.decryptOutput.length

-- What becomes of a message, from its IV and its data only.
def Message.result (ciphers : Ciphers) (algorithm : UInt32) (key : Bytes) (message : Message) :
    Option Bytes × Option Bytes :=
  let ciphertext := ciphertextOf ciphers algorithm key message.iv message.data
  if ciphertext = [] then (none, none)
  else (some ciphertext, if message.data = [] then none else some message.data)

-- Both directions report success, and the message comes back.
def Message.RoundTrips (message : Message) (result : Option Bytes × Option Bytes) : Prop :=
  result.1.isSome ∧ result.2 = some message.data

theorem exchange_eq (hsupported : isCipherSupported algorithm = true)
    (hkey : key.length = algs.keyLength algorithm) {encrypting decrypting : CipherContext}
    (hencrypting : encrypting.Keyed algorithm key true) (hdecrypting : decrypting.Keyed algorithm key false)
    {messages : List Message} (hfits : ∀ message ∈ messages, message.Fits ciphers algs algorithm key) :
    exchange ciphers algs encrypting decrypting messages = messages.map (Message.result ciphers algorithm key) := by
  induction messages generalizing encrypting decrypting with
  | nil => rfl
  | cons message rest ih =>
      have hrest : ∀ message ∈ rest, message.Fits ciphers algs algorithm key := fun other hother =>
        hfits other (List.mem_cons_of_mem _ hother)
      have hfit := hfits message List.mem_cons_self
      have hkeySize : cipherKeySize algorithm = .ok key.length := by rw [hkey, algs.keySize algorithm hsupported]
      have hivSize : cipherIvSize algorithm = .ok message.iv.length := by
        rw [hfit.iv, algs.ivSize algorithm hsupported]
      obtain ⟨sent, hsent, hsentKeyed⟩ := (hencrypting.calls algs message.encryptBefore).process hsupported
        hfit.iv (message.encryptSplit.property message.data)
        (cryptCipher_encrypt hsupported hkeySize hivSize message.data) hfit.encryptOutput
      have hlistening := hdecrypting.calls algs message.decryptBefore
      rw [exchange, hsent, List.map_cons, Message.result]
      by_cases hnil : ciphertextOf ciphers algorithm key message.iv message.data = []
      · rw [if_pos hnil, if_pos hnil, ← ih hsentKeyed hlistening hrest]
      · have hcrypt : cryptCipher ciphers ⟨algorithm, key, message.iv,
            ciphertextOf ciphers algorithm key message.iv message.data, false⟩ = .ok message.data :=
          cryptCipher_decrypt hsupported hkeySize hivSize message.data
        obtain ⟨heard, hheard, hheardKeyed⟩ := hlistening.process hsupported hfit.iv
          (message.decryptSplit.property _) hcrypt hfit.decryptOutput
        rw [if_neg hnil, if_neg hnil, ← ih hsentKeyed hheardKeyed hrest]
        simp only [hheard]

theorem Message.roundTrips_result {message : Message} :
    message.RoundTrips (message.result ciphers algorithm key) ↔ message.data ≠ [] := by
  unfold Message.RoundTrips Message.result
  by_cases hdata : message.data = []
  · by_cases hnil : ciphertextOf ciphers algorithm key message.iv message.data = []
    · rw [if_pos hnil]
      exact ⟨fun h => (by cases h.2), fun h => absurd hdata h⟩
    · rw [if_neg hnil, if_pos hdata]
      exact ⟨fun h => (by cases h.2), fun h => absurd hdata h⟩
  · have hsome : ciphertextOf ciphers algorithm key message.iv message.data ≠ [] := fun hnil =>
      hdata (ciphertextOf_eq_nil.mp hnil).2
    rw [if_neg hsome, if_neg hdata]
    exact ⟨fun _ => hdata, fun _ => ⟨rfl, rfl⟩⟩

-- Each message has the result of its IV and data, and all of them come back
-- exactly where none is empty.
theorem cipher_contexts_round_trip (hsupported : isCipherSupported algorithm = true) {pointer : Bytes}
    (hpointer : algs.keyLength algorithm ≤ pointer.length) {messages : List Message}
    (hfits : ∀ message ∈ messages, message.Fits ciphers algs algorithm (pointer.take (algs.keyLength algorithm))) :
    ∃ encrypting decrypting,
      CipherContext.init algs algorithm pointer ENCRYPT = .ok encrypting ∧
      CipherContext.init algs algorithm pointer DECRYPT = .ok decrypting ∧
      exchange ciphers algs encrypting decrypting messages =
        messages.map (Message.result ciphers algorithm (pointer.take (algs.keyLength algorithm))) ∧
      (List.Forall₂ Message.RoundTrips messages (exchange ciphers algs encrypting decrypting messages) ↔
        ∀ message ∈ messages, message.data ≠ []) := by
  have hkey : (pointer.take (algs.keyLength algorithm)).length = algs.keyLength algorithm := by
    rw [List.length_take]
    omega
  obtain ⟨encrypting, hencrypting, hkeyed⟩ := CipherContext.init_keyed hsupported hpointer ENCRYPT
  obtain ⟨decrypting, hdecrypting, hother⟩ := CipherContext.init_keyed hsupported hpointer DECRYPT
  have hexchange := exchange_eq hsupported hkey hkeyed hother hfits
  refine ⟨encrypting, decrypting, hencrypting, hdecrypting, hexchange, ?_⟩
  rw [hexchange, List.forall₂_map_right_iff, List.forall₂_same]
  exact forall₂_congr fun message _ => Message.roundTrips_result

end Exchange

section Empty

-- The keystream of a key and an IV of zeros, for 16 bytes.
def zeroKeystream : Bytes := [220, 149, 192, 120, 162, 64, 137, 137, 173, 72, 162, 20, 146, 132, 32, 135]

def pkcs7 (data : Bytes) : Bytes :=
  data ++ List.replicate (16 - data.length % 16) (UInt8.ofNat (16 - data.length % 16))

def unpadPkcs7 (data : Bytes) : Except String Bytes :=
  if (data.getLastD 0).toNat ∈ List.range' 1 16 then .ok (data.take (data.length - (data.getLastD 0).toNat))
  else .error "Unpad Error"

theorem unpadPkcs7_pkcs7 (data : Bytes) : unpadPkcs7 (pkcs7 data) = .ok data := by
  have hlast : (pkcs7 data).getLastD 0 = UInt8.ofNat (16 - data.length % 16) := by
    obtain ⟨more, hmore⟩ : ∃ more, 16 - data.length % 16 = more + 1 := ⟨15 - data.length % 16, by omega⟩
    simp [pkcs7, hmore, List.replicate_succ', List.getLastD_eq_getLast?]
  have hnat : (UInt8.ofNat (16 - data.length % 16)).toNat = 16 - data.length % 16 := by
    rw [UInt8.toNat_ofNat']
    omega
  have hmem : 16 - data.length % 16 ∈ List.range' 1 16 := by
    rw [List.mem_range'_1]
    omega
  rw [unpadPkcs7, hlast, hnat, if_pos hmem]
  simp [pkcs7]

-- The blocks of CBC are left as they are.
def zeroCiphers : Ciphers where
  newFromSlices _ _ _ := .ok ()
  encryptPaddedVec _ _ _ data := pkcs7 data
  decryptPaddedVec _ _ _ data := unpadPkcs7 data
  applyKeystream _ _ data := data.mapIdx fun index byte => byte ^^^ zeroKeystream.getD index 0
  sizes _ _ _ _ _ := rfl
  decrypt_encrypt _ _ _ data := unpadPkcs7_pkcs7 data
  padded _ _ _ data := by
    rw [pkcs7, List.length_append, List.length_replicate]
    omega
  keystream_keystream _ _ data := by
    apply List.ext_getElem
    · simp
    · intro index _ _
      rw [List.getElem_mapIdx, List.getElem_mapIdx, UInt8.xor_assoc, UInt8.xor_self, UInt8.xor_zero]
  keystream_length _ _ data := List.length_mapIdx

def sizesTable : CryptoAlgs where
  keyLength algorithm := ffiLength (cipherKeySize algorithm)
  ivLength algorithm := ffiLength (cipherIvSize algorithm)
  keySize algorithm hsupported := by
    have hsizes : [AES_128_CBC, AES_192_CBC, AES_256_CBC, DES_CBC, DES_EDE3_CBC, BF_CBC, AES_256_CTR].all
        (fun supported => cipherKeySize supported = .ok (ffiLength (cipherKeySize supported))) = true := by decide
    exact of_decide_eq_true (List.all_eq_true.mp hsizes algorithm (List.contains_iff_mem.mp hsupported))
  ivSize algorithm hsupported := by
    have hsizes : [AES_128_CBC, AES_192_CBC, AES_256_CBC, DES_CBC, DES_EDE3_CBC, BF_CBC, AES_256_CTR].all
        (fun supported => cipherIvSize supported = .ok (ffiLength (cipherIvSize supported))) = true := by decide
    exact of_decide_eq_true (List.all_eq_true.mp hsizes algorithm (List.contains_iff_mem.mp hsupported))

def zeros (length : Nat) : Bytes := List.replicate length 0

theorem flatten_bytes (data : Bytes) : (data.map ([·])).flatten = data := by
  induction data with
  | nil => rfl
  | cons byte rest ih => exact congrArg (byte :: ·) ih

def message (data : Bytes) : Message where
  iv := zeros 16
  data := data
  encryptSplit := ⟨fun data => [data], fun data => by simp⟩
  encryptOutput := zeros 32
  encryptBefore := [.Update [1], .Final []]
  decryptSplit := ⟨fun data => data.map ([·]), flatten_bytes⟩
  decryptOutput := zeros 32
  decryptBefore := [.Reset [], .Update [2]]

-- An empty message fails to be encrypted in CTR mode, and to be decrypted in CBC
-- mode.
theorem empty_message_lost : ∃ encrypting decrypting,
    CipherContext.init sizesTable AES_256_CTR (zeros 32) ENCRYPT = .ok encrypting ∧
      CipherContext.init sizesTable AES_256_CTR (zeros 32) DECRYPT = .ok decrypting ∧
      exchange zeroCiphers sizesTable encrypting decrypting [message []] = [(none, none)] ∧
      ¬List.Forall₂ Message.RoundTrips [message []]
        (exchange zeroCiphers sizesTable encrypting decrypting [message []]) ∧
      ∃ encrypting decrypting,
        CipherContext.init sizesTable AES_128_CBC (zeros 16) ENCRYPT = .ok encrypting ∧
        CipherContext.init sizesTable AES_128_CBC (zeros 16) DECRYPT = .ok decrypting ∧
        exchange zeroCiphers sizesTable encrypting decrypting [message []] = [(some (List.replicate 16 16), none)] := by
  refine ⟨⟨some ⟨AES_256_CTR, zeros 32, [], [], true⟩, AES_256_CTR⟩,
    ⟨some ⟨AES_256_CTR, zeros 32, [], [], false⟩, AES_256_CTR⟩, by decide, by decide, by decide, ?_,
    ⟨some ⟨AES_128_CBC, zeros 16, [], [], true⟩, AES_128_CBC⟩,
    ⟨some ⟨AES_128_CBC, zeros 16, [], [], false⟩, AES_128_CBC⟩, by decide, by decide, by decide⟩
  intro hall
  obtain ⟨⟨hsome, _⟩, _⟩ := List.forall₂_cons.mp hall
  exact absurd hsome (by decide)

theorem cipher_contexts_round_trip_greeting : ∃ encrypting decrypting,
    CipherContext.init sizesTable AES_256_CTR (zeros 32) ENCRYPT = .ok encrypting ∧
      CipherContext.init sizesTable AES_256_CTR (zeros 32) DECRYPT = .ok decrypting ∧
      exchange zeroCiphers sizesTable encrypting decrypting [message [104, 105]] =
        [(some [180, 252], some [104, 105])] ∧
      List.Forall₂ Message.RoundTrips [message [104, 105]]
        (exchange zeroCiphers sizesTable encrypting decrypting [message [104, 105]]) := by
  have hfits : ∀ sent ∈ [message [104, 105]],
      sent.Fits zeroCiphers sizesTable AES_256_CTR ((zeros 32).take (sizesTable.keyLength AES_256_CTR)) := by
    intro sent hsent
    rw [List.mem_singleton.mp hsent]
    exact ⟨by decide, by decide, by decide⟩
  obtain ⟨encrypting, decrypting, hencrypting, hdecrypting, hexchange, hall⟩ :=
    cipher_contexts_round_trip (by decide) (by decide) hfits
  refine ⟨encrypting, decrypting, hencrypting, hdecrypting, ?_, hall.mpr ?_⟩
  · rw [hexchange]
    decide
  · intro sent hsent
    rw [List.mem_singleton.mp hsent]
    decide

end Empty

end OpenvpnConnect.Crypto
