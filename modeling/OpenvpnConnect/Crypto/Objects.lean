import OpenvpnConnect.Memory.Boxes
import OpenvpnConnect.Crypto.Digest
import OpenvpnConnect.Crypto.Aead

namespace OpenvpnConnect.Crypto

open Memory

-- What a handle of the backend points to.
inductive Block
  | Digest (handle : DigestHandle)
  | Hmac (handle : HmacHandle)
  | Cipher (handle : CipherHandle)
  | Aead (handle : AeadHandle)
deriving DecidableEq, Repr

abbrev Ffi := Program Block

def digestBox : Boxed Block DigestHandle where
  pack := .Digest
  unpack
    | .Digest handle => some handle
    | _ => none
  unpack_pack _ := rfl

def hmacBox : Boxed Block HmacHandle where
  pack := .Hmac
  unpack
    | .Hmac handle => some handle
    | _ => none
  unpack_pack _ := rfl

def cipherBox : Boxed Block CipherHandle where
  pack := .Cipher
  unpack
    | .Cipher handle => some handle
    | _ => none
  unpack_pack _ := rfl

def aeadBox : Boxed Block AeadHandle where
  pack := .Aead
  unpack
    | .Aead handle => some handle
    | _ => none
  unpack_pack _ := rfl

structure Primitives (υ : Type) where
  digests : Digests
  macs : Macs
  ciphers : Ciphers
  algs : CryptoAlgs
  aeads : Aeads
  limits : UsageLimits υ

inductive DigestCall
  | Init (algorithm : UInt32)
  | Update (input : Bytes)
  | Final (output : Bytes)
  | Size
deriving DecidableEq, Repr

inductive HmacCall
  | Init (algorithm : UInt32) (key : Bytes)
  | Reset
  | Update (input : Bytes)
  | Final (output : Bytes)
  | Size
deriving DecidableEq, Repr

inductive CipherCall
  | Init (algorithm : UInt32) (key : Bytes) (mode : Int)
  | Reset (iv : Bytes)
  | Update (input : Bytes)
  | Final (output : Bytes) (outputSize outputAcc : Nat)
deriving DecidableEq, Repr

inductive AeadMethod
  | Init (algorithm : UInt32) (key : Pointer) (keySize : Nat) (mode : Int)
  | Encrypt (call : AeadCall) (buffers : Buffers)
  | Decrypt (call : AeadCall) (buffers : Buffers)
  | GetUsageLimit
deriving DecidableEq, Repr

inductive Answer (υ : Type)
  | Done
  | Created (index : Nat)
  | Threw (what : String)
  | Flag (done : Bool)
  | Written (length : Nat) (output : Bytes)
  | Size (length : Nat)
  | Filled (done : Bool) (output : Bytes) (outputAcc : Nat)
  | Sealed (failure : Option String) (buffers : Buffers)
  | Opened (done : Bool) (buffers : Buffers)
  | Usage (limit : υ)
  | Absent
deriving DecidableEq, Repr

variable {υ : Type}

def Answer.ofUnit : Except String Unit → Answer υ
  | .ok _ => .Done
  | .error what => .Threw what

def Answer.ofWritten : Except String (Nat × Bytes) → Answer υ
  | .ok (length, output) => .Written length output
  | .error what => .Threw what

section Methods

variable (prims : Primitives υ)

-- erase() comes first, and the handle is null where the backend refuses.
def initHandle {τ : Type} (boxed : Boxed Block τ) (handle : Option Nat) (value : Option τ) (what : String) :
    Ffi (Answer υ × Option Nat) := do
  boxed.release handle
  let handle ← boxed.box value
  return (if handle.isNone then .Threw what else .Done, handle)

def digestCall (handle : Option Nat) : DigestCall → Ffi (Answer υ × Option Nat)
  | .Init algorithm => initHandle digestBox handle (digestNew algorithm) "Rust digest initialization failed"
  | .Update input => do
      let answer ← digestBox.onHandle handle (.Threw "Rust digest update failed") fun digest =>
        let (status, digest) := digestUpdate digest input
        (if status = 0 then .Threw "Rust digest update failed" else .Done, digest)
      return (answer, handle)
  | .Final output => do
      let answer ← digestBox.onHandle handle (.Threw "Rust digest finalization failed") fun digest =>
        let (written, output) := digestFinal prims.digests digest output MAX_DIGEST_SIZE
        (if written = 0 then .Threw "Rust digest finalization failed" else .Written written output, digest)
      return (answer, handle)
  | .Size => do
      let answer ← digestBox.onHandle handle (.Size 0) fun digest => (.Size (digestSize digest), digest)
      return (answer, handle)

def hmacCall (handle : Option Nat) : HmacCall → Ffi (Answer υ × Option Nat)
  | .Init algorithm key => initHandle hmacBox handle (hmacNew algorithm key) "Rust HMAC initialization failed"
  | .Reset => do
      let answer ← hmacBox.onHandle handle (.Threw "Rust HMAC reset failed") fun hmac =>
        let (status, hmac) := hmacReset hmac
        (if status = 0 then .Threw "Rust HMAC reset failed" else .Done, hmac)
      return (answer, handle)
  | .Update input => do
      let answer ← hmacBox.onHandle handle (.Threw "Rust HMAC update failed") fun hmac =>
        let (status, hmac) := hmacUpdate hmac input
        (if status = 0 then .Threw "Rust HMAC update failed" else .Done, hmac)
      return (answer, handle)
  | .Final output => do
      let answer ← hmacBox.onHandle handle (.Threw "Rust HMAC finalization failed") fun hmac =>
        let (written, output) := hmacFinal prims.macs hmac output MAX_HMAC_SIZE
        (if written = 0 then .Threw "Rust HMAC finalization failed" else .Written written output, hmac)
      return (answer, handle)
  | .Size => do
      let answer ← hmacBox.onHandle handle (.Size 0) fun hmac => (.Size (hmacSize hmac), hmac)
      return (answer, handle)

-- The algorithm is changed by a successful init only.
def cipherCall (handle : Option Nat) (algorithm : UInt32) : CipherCall → Ffi (Answer υ × Option Nat × UInt32)
  | .Init next key mode => do
      let value := cipherNew next (key.take (prims.algs.keyLength next)) (if mode = ENCRYPT then 1 else 0)
      let (answer, handle) ← initHandle cipherBox handle value "Rust cipher initialization failed"
      return (answer, handle, if handle.isNone then algorithm else next)
  | .Reset iv => do
      let answer ← cipherBox.onHandle handle (.Threw "Rust cipher reset failed") fun cipher =>
        let (status, cipher) := cipherReset cipher (iv.take (prims.algs.ivLength algorithm))
        (if status = 0 then .Threw "Rust cipher reset failed" else .Done, cipher)
      return (answer, handle, algorithm)
  | .Update input => do
      let answer ← cipherBox.onHandle handle (.Flag false) fun cipher =>
        let (status, cipher) := cipherUpdate cipher input
        (.Flag (decide (status ≠ 0)), cipher)
      return (answer, handle, algorithm)
  | .Final output outputSize outputAcc => do
      let answer ← cipherBox.onHandle handle (.Filled false output outputAcc) fun cipher =>
        let (written, output) := cipherFinal prims.ciphers cipher output outputSize
        (if written = 0 then .Filled false output outputAcc else .Filled true output (outputAcc + written), cipher)
      return (answer, handle, algorithm)

-- The limit is changed by a successful init and by what has been encrypted.
def aeadCall (handle : Option Nat) (usageLimit : υ) : AeadMethod → Ffi (Answer υ × Option Nat × υ)
  | .Init algorithm key keySize mode => do
      let value := aeadNew algorithm key keySize (if mode = ENCRYPT then 1 else 0)
      let (answer, handle) ← initHandle aeadBox handle value "Rust AEAD initialization failed"
      return (answer, handle, if handle.isNone then usageLimit else prims.limits.limited algorithm)
  | .Encrypt call buffers => do
      let (failure, buffers) ← aeadBox.onHandle handle (some "Rust AEAD encryption failed", buffers) fun aead =>
        let (status, buffers) := aeadEncrypt prims.aeads aead call.packet buffers
        ((if status = 0 then some "Rust AEAD encryption failed" else none, buffers), aead)
      let used := prims.limits.update usageLimit (call.length + call.additionalDataLen)
      return (.Sealed failure buffers, handle, if failure.isNone then used else usageLimit)
  | .Decrypt call buffers =>
      match buffers.tag with
      | none => pure (.Opened false buffers, handle, usageLimit)
      | some _ => do
          let (done, buffers) ← aeadBox.onHandle handle (false, buffers) fun aead =>
            let (status, buffers) := aeadDecrypt prims.aeads aead call.packet buffers
            ((decide (status ≠ 0), buffers), aead)
          return (.Opened done buffers, handle, usageLimit)
  | .GetUsageLimit => pure (.Usage usageLimit, handle, usageLimit)

end Methods

section Values

variable (prims : Primitives υ)

-- The same methods where a context has its handle's value in itself.
def DigestContext.perform (context : DigestContext) : DigestCall → Answer υ × DigestContext
  | .Init algorithm =>
      match DigestContext.init algorithm with
      | .ok context => (.Done, context)
      | .error what => (.Threw what, ⟨none⟩)
  | .Update input =>
      match context.update input with
      | .ok context => (.Done, context)
      | .error what => (.Threw what, context)
  | .Final output => (.ofWritten (context.final prims.digests output), context)
  | .Size => (.Size context.size, context)

def HMACContext.perform (context : HMACContext) : HmacCall → Answer υ × HMACContext
  | .Init algorithm key =>
      match HMACContext.init algorithm key with
      | .ok context => (.Done, context)
      | .error what => (.Threw what, ⟨none⟩)
  | .Reset =>
      match context.reset with
      | .ok context => (.Done, context)
      | .error what => (.Threw what, context)
  | .Update input =>
      match context.update input with
      | .ok context => (.Done, context)
      | .error what => (.Threw what, context)
  | .Final output => (.ofWritten (context.final prims.macs output), context)
  | .Size => (.Size context.size, context)

def CipherContext.perform (context : CipherContext) : CipherCall → Answer υ × CipherContext
  | .Init algorithm key mode =>
      match CipherContext.init prims.algs algorithm key mode with
      | .ok context => (.Done, context)
      | .error what => (.Threw what, { context with handle := none })
  | .Reset iv =>
      let (result, context) := context.reset prims.algs iv
      (.ofUnit result, context)
  | .Update input =>
      let (done, context) := context.update input
      (.Flag done, context)
  | .Final output outputSize outputAcc =>
      let (done, output, outputAcc) := context.final prims.ciphers output outputSize outputAcc
      (.Filled done output outputAcc, context)

def failureOf : Except String Unit → Option String
  | .ok _ => none
  | .error what => some what

def CipherContextAEAD.perform (context : CipherContextAEAD υ) : AeadMethod → Answer υ × CipherContextAEAD υ
  | .Init algorithm key keySize mode =>
      let (result, context) := context.init prims.limits algorithm key keySize mode
      (.ofUnit result, context)
  | .Encrypt call buffers =>
      let (result, buffers, context) := context.encrypt prims.limits prims.aeads call buffers
      (.Sealed (failureOf result) buffers, context)
  | .Decrypt call buffers =>
      let (done, buffers) := context.decrypt prims.aeads call buffers
      (.Opened done buffers, context)
  | .GetUsageLimit => (.Usage context.usageLimit, context)

variable {prims} {grants : Nat → Bool} {cells : Cells Block}

theorem initHandle_triple {τ : Type} {boxed : Boxed Block τ} {value : Option τ} {handle : Option Nat}
    (hheld : boxed.Held value handle cells) (next : Option τ) (what : String) :
    Triple grants cells (@initHandle υ τ boxed handle next what) fun result after =>
      result.1 = (if next.isNone then .Threw what else .Done) ∧ result.2.isNone = next.isNone ∧
        boxed.Held next result.2 after := by
  apply hheld.release.bind
  rintro _ _ rfl
  apply (Boxed.box_triple next).bind
  intro renewed after hrenewed
  have hnone : renewed.isNone = next.isNone := by
    cases hrenewed <;> rfl
  exact Triple.pure _ ⟨by rw [hnone], hnone, hrenewed⟩

theorem digestCall_triple {context : DigestContext} {handle : Option Nat}
    (hheld : digestBox.Held context.handle handle cells) (call : DigestCall) :
    Triple grants cells (digestCall prims handle call) fun result after =>
      result.1 = (context.perform prims call).1 ∧
        digestBox.Held (context.perform prims call).2.handle result.2 after := by
  obtain ⟨value⟩ := context
  cases call with
  | Init algorithm =>
      apply (initHandle_triple hheld (digestNew algorithm) _).weaken
      rintro ⟨answer, renewed⟩ after ⟨rfl, _, hafter⟩
      simp only [DigestContext.perform, DigestContext.init]
      generalize digestNew algorithm = fresh at hafter ⊢
      cases fresh <;> exact ⟨rfl, hafter⟩
  | Update input =>
      apply (hheld.onHandle _ _).bind
      rintro answer after ⟨rfl, hafter⟩
      apply Triple.pure
      cases value <;> exact ⟨rfl, hafter⟩
  | Final output =>
      apply (hheld.onHandle _ _).bind
      rintro answer after ⟨rfl, hafter⟩
      apply Triple.pure
      cases value with
      | none => exact ⟨rfl, hafter⟩
      | some value =>
          refine ⟨?_, hafter⟩
          simp only [DigestContext.perform, DigestContext.final, Option.elim_some]
          split <;> rfl
  | Size =>
      apply (hheld.onHandle _ _).bind
      rintro answer after ⟨rfl, hafter⟩
      apply Triple.pure
      cases value <;> exact ⟨rfl, hafter⟩

theorem hmacCall_triple {context : HMACContext} {handle : Option Nat}
    (hheld : hmacBox.Held context.handle handle cells) (call : HmacCall) :
    Triple grants cells (hmacCall prims handle call) fun result after =>
      result.1 = (context.perform prims call).1 ∧
        hmacBox.Held (context.perform prims call).2.handle result.2 after := by
  obtain ⟨value⟩ := context
  cases call with
  | Init algorithm key =>
      apply (initHandle_triple hheld (hmacNew algorithm key) _).weaken
      rintro ⟨answer, renewed⟩ after ⟨rfl, _, hafter⟩
      simp only [HMACContext.perform, HMACContext.init]
      generalize hmacNew algorithm key = fresh at hafter ⊢
      cases fresh <;> exact ⟨rfl, hafter⟩
  | Reset =>
      apply (hheld.onHandle _ _).bind
      rintro answer after ⟨rfl, hafter⟩
      apply Triple.pure
      cases value <;> exact ⟨rfl, hafter⟩
  | Update input =>
      apply (hheld.onHandle _ _).bind
      rintro answer after ⟨rfl, hafter⟩
      apply Triple.pure
      cases value <;> exact ⟨rfl, hafter⟩
  | Final output =>
      apply (hheld.onHandle _ _).bind
      rintro answer after ⟨rfl, hafter⟩
      apply Triple.pure
      cases value with
      | none => exact ⟨rfl, hafter⟩
      | some value =>
          refine ⟨?_, hafter⟩
          simp only [HMACContext.perform, HMACContext.final, Option.elim_some]
          split <;> rfl
  | Size =>
      apply (hheld.onHandle _ _).bind
      rintro answer after ⟨rfl, hafter⟩
      apply Triple.pure
      cases value <;> exact ⟨rfl, hafter⟩

theorem cipherCall_triple {context : CipherContext} {handle : Option Nat}
    (hheld : cipherBox.Held context.handle handle cells) (call : CipherCall) :
    Triple grants cells (cipherCall prims handle context.algorithm call) fun result after =>
      result.1 = (context.perform prims call).1 ∧
        result.2.2 = (context.perform prims call).2.algorithm ∧
        cipherBox.Held (context.perform prims call).2.handle result.2.1 after := by
  obtain ⟨value, algorithm⟩ := context
  cases call with
  | Init next key mode =>
      apply (initHandle_triple hheld (cipherNew next (key.take (prims.algs.keyLength next))
        (if mode = ENCRYPT then 1 else 0)) _).bind
      rintro ⟨answer, renewed⟩ after ⟨rfl, hnone, hafter⟩
      apply Triple.pure
      simp only [CipherContext.perform, CipherContext.init, hnone]
      generalize cipherNew next _ _ = fresh at hafter ⊢
      cases fresh <;> exact ⟨rfl, rfl, hafter⟩
  | Reset iv =>
      apply (hheld.onHandle _ _).bind
      rintro answer after ⟨rfl, hafter⟩
      apply Triple.pure
      cases value with
      | none => exact ⟨rfl, rfl, hafter⟩
      | some value =>
          refine ⟨?_, rfl, hafter⟩
          simp only [CipherContext.perform, CipherContext.reset, Option.elim_some]
          split <;> rfl
  | Update input =>
      apply (hheld.onHandle _ _).bind
      rintro answer after ⟨rfl, hafter⟩
      apply Triple.pure
      cases value <;> exact ⟨rfl, rfl, hafter⟩
  | Final output outputSize outputAcc =>
      apply (hheld.onHandle _ _).bind
      rintro answer after ⟨rfl, hafter⟩
      apply Triple.pure
      cases value with
      | none => exact ⟨rfl, rfl, hafter⟩
      | some value =>
          refine ⟨?_, rfl, hafter⟩
          simp only [CipherContext.perform, CipherContext.final, Option.elim_some]
          split <;> rfl

theorem aeadCall_triple {context : CipherContextAEAD υ} {handle : Option Nat}
    (hheld : aeadBox.Held context.handle handle cells) (call : AeadMethod) :
    Triple grants cells (aeadCall prims handle context.usageLimit call) fun result after =>
      result.1 = (context.perform prims call).1 ∧
        result.2.2 = (context.perform prims call).2.usageLimit ∧
        aeadBox.Held (context.perform prims call).2.handle result.2.1 after := by
  obtain ⟨value, usageLimit⟩ := context
  cases call with
  | Init algorithm key keySize mode =>
      apply (initHandle_triple hheld (aeadNew algorithm key keySize (if mode = ENCRYPT then 1 else 0)) _).bind
      rintro ⟨answer, renewed⟩ after ⟨rfl, hnone, hafter⟩
      apply Triple.pure
      simp only [CipherContextAEAD.perform, CipherContextAEAD.init, hnone]
      generalize aeadNew algorithm key keySize _ = fresh at hafter ⊢
      cases fresh <;> exact ⟨rfl, rfl, hafter⟩
  | Encrypt call buffers =>
      apply (hheld.onHandle _ _).bind
      rintro answer after ⟨rfl, hafter⟩
      apply Triple.pure
      cases value with
      | none => exact ⟨rfl, rfl, hafter⟩
      | some value =>
          simp only [CipherContextAEAD.perform, CipherContextAEAD.encrypt]
          split <;> exact ⟨rfl, rfl, hafter⟩
  | Decrypt call buffers =>
      obtain ⟨output, tag⟩ := buffers
      cases tag with
      | none => cases value <;> exact Triple.pure _ ⟨rfl, rfl, hheld⟩
      | some tag =>
          apply (hheld.onHandle _ _).bind
          rintro answer after ⟨rfl, hafter⟩
          apply Triple.pure
          cases value <;> exact ⟨rfl, rfl, hafter⟩
  | GetUsageLimit => exact Triple.pure _ ⟨rfl, rfl, hheld⟩

end Values

end OpenvpnConnect.Crypto
