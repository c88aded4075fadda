import OpenvpnConnect.Crypto.Prf

namespace OpenvpnConnect.Crypto

def MAX_DIGEST_SIZE : Nat := 64

-- The digest of each algorithm.
structure Digests where
  digest : UInt32 → Bytes → Bytes
  length : ∀ algorithm size data, digestSizeFor algorithm = .ok size → (digest algorithm data).length = size

structure DigestHandle where
  algorithm : UInt32
  data : Bytes
deriving DecidableEq, Repr

def computeDigest (digests : Digests) (algorithm : UInt32) (data : Bytes) : Except String Bytes :=
  if algorithm ∈ [MD4, MD5, SHA1, SHA224, SHA256, SHA384, SHA512] then .ok (digests.digest algorithm data)
  else .error "unsupported digest"

def digestNew (algorithm : UInt32) : Option DigestHandle :=
  ffiPointer do
    let _ ← digestSizeFor algorithm
    return { algorithm, data := [] }

def digestUpdate (handle : DigestHandle) (input : Bytes) : Int × DigestHandle :=
  ffiStatus handle (.ok { handle with data := handle.data ++ input })

-- The data stay.
def digestFinal (digests : Digests) (handle : DigestHandle) (output : Bytes) (outputCapacity : Nat) :
    Nat × Bytes :=
  match computeDigest digests handle.algorithm handle.data with
  | .error error => (ffiLength (.error error), output)
  | .ok digest =>
      let (written, output) := copyOutput output outputCapacity digest
      (ffiLength written, output)

def digestSize (handle : DigestHandle) : Nat := ffiLength (digestSizeFor handle.algorithm)

def hmacSize (handle : HmacHandle) : Nat := ffiLength (digestSizeFor handle.algorithm)

structure DigestContext where
  handle : Option DigestHandle
deriving DecidableEq, Repr

def DigestContext.init (algorithm : UInt32) : Except String DigestContext :=
  match digestNew algorithm with
  | none => .error "Rust digest initialization failed"
  | some handle => .ok ⟨some handle⟩

def DigestContext.update (digest : DigestContext) (input : Bytes) : Except String DigestContext :=
  match digest.handle with
  | none => .error "Rust digest update failed"
  | some handle =>
      let (status, handle) := digestUpdate handle input
      if status = 0 then .error "Rust digest update failed" else .ok ⟨some handle⟩

-- How much has been written, and the buffer with it.
def DigestContext.final (digests : Digests) (digest : DigestContext) (output : Bytes) :
    Except String (Nat × Bytes) :=
  match digest.handle with
  | none => .error "Rust digest finalization failed"
  | some handle =>
      let (written, output) := digestFinal digests handle output MAX_DIGEST_SIZE
      if written = 0 then .error "Rust digest finalization failed" else .ok (written, output)

def DigestContext.size (digest : DigestContext) : Nat :=
  match digest.handle with
  | none => 0
  | some handle => digestSize handle

def HMACContext.size (hmac : HMACContext) : Nat :=
  match hmac.handle with
  | none => 0
  | some handle => hmacSize handle

section Context

variable {algorithm : UInt32} {size : Nat} (hsize : digestSizeFor algorithm = .ok size) (data : Bytes)
include hsize

theorem DigestContext.init_eq : DigestContext.init algorithm = .ok ⟨some ⟨algorithm, []⟩⟩ := by
  simp [DigestContext.init, digestNew, hsize]
  rfl

theorem DigestContext.final_eq (digests : Digests) (output : Bytes) :
    DigestContext.final digests ⟨some ⟨algorithm, data⟩⟩ output =
      .ok (size, digests.digest algorithm data ++ output.drop size) := by
  obtain ⟨hmem, hpos, hfits⟩ := digestSizeFor_bounds hsize
  have hlength := digests.length algorithm size data hsize
  have hcompute : computeDigest digests algorithm data = .ok (digests.digest algorithm data) := if_pos hmem
  have hroom : (digests.digest algorithm data).length ≤ MAX_DIGEST_SIZE := by
    rw [hlength]
    exact hfits
  have hsome : size ≠ 0 := by omega
  simp only [DigestContext.final, digestFinal, hcompute, copyOutput_ok _ hroom, hlength, ffiLength]
  rw [if_neg hsome]

end Context

end OpenvpnConnect.Crypto
