import OpenvpnConnect.Crypto.Backend
import OpenvpnConnect.Expansion
import Mathlib.Data.List.Basic

namespace OpenvpnConnect.Crypto

open Expansion

def MAX_HMAC_SIZE : Nat := 64

-- The handle is null in a context that has not been initialized.
structure HMACContext where
  handle : Option HmacHandle
deriving DecidableEq, Repr

def HMACContext.init (algorithm : UInt32) (key : Bytes) : Except String HMACContext :=
  match hmacNew algorithm key with
  | none => .error "Rust HMAC initialization failed"
  | some handle => .ok ⟨some handle⟩

def HMACContext.reset (hmac : HMACContext) : Except String HMACContext :=
  match hmac.handle with
  | none => .error "Rust HMAC reset failed"
  | some handle =>
      let (status, handle) := hmacReset handle
      if status = 0 then .error "Rust HMAC reset failed" else .ok ⟨some handle⟩

def HMACContext.update (hmac : HMACContext) (input : Bytes) : Except String HMACContext :=
  match hmac.handle with
  | none => .error "Rust HMAC update failed"
  | some handle =>
      let (status, handle) := hmacUpdate handle input
      if status = 0 then .error "Rust HMAC update failed" else .ok ⟨some handle⟩

-- How much has been written, and the buffer with it.
def HMACContext.final (macs : Macs) (hmac : HMACContext) (output : Bytes) : Except String (Nat × Bytes) :=
  match hmac.handle with
  | none => .error "Rust HMAC finalization failed"
  | some handle =>
      let (written, output) := hmacFinal macs handle output MAX_HMAC_SIZE
      if written = 0 then .error "Rust HMAC finalization failed" else .ok (written, output)

section Context

variable {algorithm : UInt32} {size : Nat} (hsize : digestSizeFor algorithm = .ok size) (key data : Bytes)
include hsize

theorem HMACContext.init_eq : HMACContext.init algorithm key = .ok ⟨some ⟨algorithm, key, []⟩⟩ := by
  simp [HMACContext.init, hmacNew, hsize]
  rfl

theorem HMACContext.final_eq (macs : Macs) (output : Bytes) :
    HMACContext.final macs ⟨some ⟨algorithm, key, data⟩⟩ output =
      .ok (size, macs.hmac algorithm key data ++ output.drop size) := by
  obtain ⟨_, hpos, hfits⟩ := digestSizeFor_bounds hsize
  have hlength := macs.length algorithm size key data hsize
  have hroom : (macs.hmac algorithm key data).length ≤ MAX_HMAC_SIZE := by
    rw [hlength]
    exact hfits
  have hsome : size ≠ 0 := by omega
  simp only [HMACContext.final, hmacFinal, computeHmac_ok hsize, copyOutput_ok _ hroom, hlength, ffiLength]
  rw [if_neg hsome]

end Context

namespace TLS1PRF

-- The variables of p_hash; `written` is how far the output pointer has moved.
structure PHash where
  hmac : HMACContext
  a : Bytes
  aLen : Nat
  output : Bytes
  written : Nat
  outputLen : Nat
deriving DecidableEq, Repr

def PHash.start (macs : Macs) (algorithm : UInt32) (secret seed output : Bytes) (outputLen : Nat) :
    Except String PHash := do
  let hmac ← HMACContext.init algorithm secret
  let hmac ← hmac.update seed
  let (aLen, a) ← hmac.final macs (List.replicate MAX_HMAC_SIZE 0)
  return { hmac, a, aLen, output, written := 0, outputLen }

-- The body of the loop.
def PHash.round (macs : Macs) (seed : Bytes) (s : PHash) : Except String PHash := do
  let hmac ← s.hmac.reset
  let hmac ← hmac.update (s.a.take s.aLen)
  let hmac ← hmac.update seed
  let (blockLen, block) ← hmac.final macs (List.replicate MAX_HMAC_SIZE 0)
  let take := min s.outputLen blockLen
  let output := memcpy s.output s.written (block.take take)
  let hmac ← hmac.reset
  let hmac ← hmac.update (s.a.take s.aLen)
  let (aLen, a) ← hmac.final macs s.a
  return { hmac, a, aLen, output, written := s.written + take, outputLen := s.outputLen - take }

-- `none` is a loop that is still running after `fuel` tests of its condition.
def PHash.loop (macs : Macs) (seed : Bytes) : Nat → PHash → ExceptT String Option PHash
  | 0, _ => ExceptT.mk none
  | fuel + 1, s =>
      if s.outputLen = 0 then pure s
      else do
        let s ← ExceptT.mk (some (s.round macs seed))
        loop macs seed fuel s

section Hash

variable {macs : Macs} {algorithm : UInt32} {size : Nat} {secret seed : Bytes}

-- The loop is before round `count`, or at its end: `rest` is what follows the
-- bytes that have been written.
structure PHash.At (macs : Macs) (algorithm : UInt32) (size : Nat) (secret seed : Bytes) (s : PHash)
    (count : Nat) (rest : Bytes) : Prop where
  hmac : ∃ data, s.hmac = ⟨some ⟨algorithm, secret, data⟩⟩
  chain : s.a.take s.aLen = chain (macs.hmac algorithm secret) seed (count + 1)
  output : s.output = expand (macs.hmac algorithm secret) seed s.written ++ rest
  written : s.written = count * size ∨ s.outputLen = 0
  room : s.outputLen ≤ rest.length

theorem PHash.start_at (hsize : digestSizeFor algorithm = .ok size) (seed output : Bytes) {outputLen : Nat}
    (hroom : outputLen ≤ output.length) : ∃ s : PHash,
    PHash.start macs algorithm secret seed output outputLen = .ok s ∧
      s.At macs algorithm size secret seed 0 output ∧ s.written = 0 ∧ s.outputLen = outputLen := by
  have hlength := macs.length algorithm size secret seed hsize
  refine ⟨⟨⟨some ⟨algorithm, secret, seed⟩⟩,
    macs.hmac algorithm secret seed ++ (List.replicate MAX_HMAC_SIZE 0).drop size, size, output, 0, outputLen⟩,
    ?_, ⟨⟨seed, rfl⟩, ?_, rfl, .inl (Nat.zero_mul size).symm, hroom⟩, rfl, rfl⟩
  · have hfinal := HMACContext.final_eq hsize secret seed macs (List.replicate MAX_HMAC_SIZE 0)
    simp only [PHash.start, HMACContext.init_eq hsize]
    show (HMACContext.final macs ⟨some ⟨algorithm, secret, [] ++ seed⟩⟩ _ >>= _) = _
    rw [List.nil_append, hfinal]
    rfl
  · rw [List.take_left' hlength]
    rfl

theorem PHash.At.round {s : PHash} {count : Nat} {rest : Bytes} (hsize : digestSizeFor algorithm = .ok size)
    (hs : s.At macs algorithm size secret seed count rest) (hmore : s.outputLen ≠ 0) : ∃ next : PHash,
    s.round macs seed = .ok next ∧
      next.At macs algorithm size secret seed (count + 1) (rest.drop (min s.outputLen size)) ∧
      next.written = s.written + min s.outputLen size ∧
      next.outputLen = s.outputLen - min s.outputLen size := by
  obtain ⟨_, hpos, _⟩ := digestSizeFor_bounds hsize
  obtain ⟨data, hhmac⟩ := hs.hmac
  have hwritten : s.written = count * size := by
    rcases hs.written with he | hdone
    · exact he
    · exact absurd hdone hmore
  have hall : ∀ data, (macs.hmac algorithm secret data).length = size := fun data =>
    macs.length algorithm size secret data hsize
  have hblock : (block (macs.hmac algorithm secret) seed count).length = size := hall _
  have hsum : expand (macs.hmac algorithm secret) seed (count * size + min s.outputLen size) = _ :=
    expand_add hall hpos count (Nat.min_le_right s.outputLen size)
  refine ⟨⟨⟨some ⟨algorithm, secret, s.a.take s.aLen⟩⟩,
    macs.hmac algorithm secret (s.a.take s.aLen) ++ s.a.drop size, size,
    memcpy s.output s.written ((block (macs.hmac algorithm secret) seed count).take (min s.outputLen size)),
    s.written + min s.outputLen size, s.outputLen - min s.outputLen size⟩, ?_, ⟨⟨_, rfl⟩, ?_, ?_, ?_, ?_⟩, rfl, rfl⟩
  · have hsecond := HMACContext.final_eq hsize secret (s.a.take s.aLen ++ seed) macs (List.replicate MAX_HMAC_SIZE 0)
    have hthird := HMACContext.final_eq hsize secret (s.a.take s.aLen) macs s.a
    have htake : (macs.hmac algorithm secret (s.a.take s.aLen ++ seed) ++
        (List.replicate MAX_HMAC_SIZE 0).drop size).take (min s.outputLen size) =
        (block (macs.hmac algorithm secret) seed count).take (min s.outputLen size) := by
      rw [hs.chain, List.take_append_of_le_length (by rw [hall]; omega)]
      rfl
    simp only [PHash.round, hhmac]
    show (HMACContext.final macs ⟨some ⟨algorithm, secret, ([] ++ s.a.take s.aLen) ++ seed⟩⟩ _ >>= _) = _
    rw [List.nil_append, hsecond]
    show (HMACContext.final macs ⟨some ⟨algorithm, secret, [] ++ s.a.take s.aLen⟩⟩ _ >>= _) = _
    rw [List.nil_append, hthird]
    show Except.ok _ = Except.ok _
    rw [htake]
  · rw [List.take_left' (hall _), hs.chain]
    rfl
  · have hlength : (expand (macs.hmac algorithm secret) seed s.written).length = s.written :=
      length_expand hall hpos s.written
    have hfirst : s.output.take s.written = expand (macs.hmac algorithm secret) seed s.written := by
      rw [hs.output, List.take_left' hlength]
    have hlast : s.output.drop (s.written + min s.outputLen size) = rest.drop (min s.outputLen size) := by
      rw [hs.output, List.drop_append, hlength, List.drop_of_length_le (by omega)]
      simp
    simp only [memcpy, List.length_take, hblock, Nat.min_assoc, Nat.min_self]
    rw [hfirst, hlast, hwritten, hsum]
  · by_cases hwhole : size ≤ s.outputLen
    · left
      rw [Nat.succ_mul, hwritten, Nat.min_eq_right hwhole]
    · right
      show s.outputLen - min s.outputLen size = 0
      omega
  · have hroom := hs.room
    rw [List.length_drop]
    show s.outputLen - min s.outputLen size ≤ rest.length - min s.outputLen size
    omega

-- Each round writes at least one byte, so the loop ends.
theorem PHash.At.loop (hsize : digestSizeFor algorithm = .ok size) {fuel : Nat} {s : PHash} {count : Nat}
    {rest : Bytes} (hs : s.At macs algorithm size secret seed count rest) (hfuel : s.outputLen < fuel) :
    ∃ last : PHash, PHash.loop macs seed fuel s = pure last ∧
      last.output = expand (macs.hmac algorithm secret) seed (s.written + s.outputLen) ++ rest.drop s.outputLen := by
  induction fuel generalizing s count rest with
  | zero => omega
  | succ fuel ih =>
      by_cases hdone : s.outputLen = 0
      · refine ⟨s, if_pos hdone, ?_⟩
        rw [hs.output, hdone]
        rfl
      · obtain ⟨_, hpos, _⟩ := digestSizeFor_bounds hsize
        obtain ⟨next, hround, hnext, hwritten, houtputLen⟩ := hs.round hsize hdone
        obtain ⟨last, hloop, houtput⟩ := ih hnext (by omega)
        refine ⟨last, ?_, ?_⟩
        · rw [PHash.loop, if_neg hdone, hround]
          exact hloop
        · have htotal : next.written + next.outputLen = s.written + s.outputLen := by omega
          have hdropped : min s.outputLen size + next.outputLen = s.outputLen := by omega
          rw [houtput, htotal, List.drop_drop, hdropped]

end Hash

def pHash (macs : Macs) (fuel : Nat) (algorithm : UInt32) (secret seed output : Bytes) (outputLen : Nat) :
    ExceptT String Option Bytes := do
  let s ← ExceptT.mk (some (PHash.start macs algorithm secret seed output outputLen))
  let s ← PHash.loop macs seed fuel s
  return s.output

theorem pHash_eq (macs : Macs) {algorithm : UInt32} {size : Nat} (hsize : digestSizeFor algorithm = .ok size)
    (secret seed output : Bytes) {fuel outputLen : Nat} (hroom : outputLen ≤ output.length)
    (hfuel : outputLen < fuel) :
    pHash macs fuel algorithm secret seed output outputLen =
      pure (expand (macs.hmac algorithm secret) seed outputLen ++ output.drop outputLen) := by
  obtain ⟨s, hstart, hs, hwritten, houtputLen⟩ := PHash.start_at hsize seed output hroom
  obtain ⟨last, hloop, houtput⟩ := hs.loop hsize (by omega : s.outputLen < fuel)
  rw [hwritten, houtputLen, Nat.zero_add] at houtput
  rw [pHash, hstart, ← houtput]
  show (PHash.loop macs seed fuel s >>= _) = _
  rw [hloop]
  rfl

def prf (macs : Macs) (fuel : Nat) (label secret output : Bytes) (outputLen : Nat) :
    ExceptT String Option (Bool × Bytes) := do
  let half := (secret.length + 1) / 2
  let md5 ← pHash macs fuel MD5 (secret.take half) label (List.replicate outputLen 0) outputLen
  let output ← pHash macs fuel SHA1 ((secret.drop (secret.length / 2)).take half) label output outputLen
  return (true, List.zipWith (· ^^^ ·) (output.take outputLen) md5 ++ output.drop outputLen)

-- The halves of the secret in RFC 2246, section 5; they share a byte where its
-- length is odd.
def firstHalf (secret : Bytes) : Bytes := secret.take ((secret.length + 1) / 2)

def secondHalf (secret : Bytes) : Bytes := secret.drop (secret.length - (secret.length + 1) / 2)

-- The PRF of RFC 2246; `seed` is the label with the seed.
def rfc2246 (macs : Macs) (secret seed : Bytes) (length : Nat) : Bytes :=
  List.zipWith (· ^^^ ·) (expand (macs.hmac MD5 (firstHalf secret)) seed length)
    (expand (macs.hmac SHA1 (secondHalf secret)) seed length)

theorem zipWith_prefix {α : Type} (f : α → α → α) {first second longFirst longSecond : List α}
    (hfirst : first <+: longFirst) (hsecond : second <+: longSecond) (hlength : first.length = second.length) :
    List.zipWith f first second <+: List.zipWith f longFirst longSecond := by
  obtain ⟨restFirst, rfl⟩ := hfirst
  obtain ⟨restSecond, rfl⟩ := hsecond
  rw [List.zipWith_append hlength]
  exact List.prefix_append _ _

-- PRF writes the first `output.length` bytes of the buffer and leaves the `rest`.
theorem tls1_prf (macs : Macs) (label secret output rest : Bytes) (fuel more : Nat) :
    prf macs (output.length + 1 + fuel) label secret (output ++ rest) output.length =
        pure (true, rfc2246 macs secret label output.length ++ rest) ∧
      (rfc2246 macs secret label output.length).length = output.length ∧
      rfc2246 macs secret label output.length <+: rfc2246 macs secret label (output.length + more) := by
  have hmd5 : digestSizeFor MD5 = .ok 16 := by decide
  have hsha1 : digestSizeFor SHA1 = .ok 20 := by decide
  have hsize16 : ∀ key data, (macs.hmac MD5 key data).length = 16 := fun key data =>
    macs.length MD5 16 key data hmd5
  have hsize20 : ∀ key data, (macs.hmac SHA1 key data).length = 20 := fun key data =>
    macs.length SHA1 20 key data hsha1
  have hfirst : ∀ length, (expand (macs.hmac MD5 (firstHalf secret)) label length).length = length :=
    length_expand (hsize16 _) (by omega)
  have hsecond : ∀ length, (expand (macs.hmac SHA1 (secondHalf secret)) label length).length = length :=
    length_expand (hsize20 _) (by omega)
  refine ⟨?_, ?_, ?_⟩
  · have hfuel : output.length < output.length + 1 + fuel := by omega
    have hhalf : (secret.drop (secret.length / 2)).take ((secret.length + 1) / 2) = secondHalf secret := by
      have hoffset : secret.length / 2 = secret.length - (secret.length + 1) / 2 := by omega
      rw [secondHalf, ← hoffset, List.take_of_length_le]
      rw [List.length_drop]
      omega
    have hlocal : pHash macs (output.length + 1 + fuel) MD5 (firstHalf secret) label
        (List.replicate output.length 0) output.length =
          pure (expand (macs.hmac MD5 (firstHalf secret)) label output.length) := by
      rw [pHash_eq macs hmd5 _ _ _ (by simp) hfuel]
      simp
    have houtput : pHash macs (output.length + 1 + fuel) SHA1 (secondHalf secret) label (output ++ rest)
        output.length = pure (expand (macs.hmac SHA1 (secondHalf secret)) label output.length ++ rest) := by
      rw [pHash_eq macs hsha1 _ _ _ (by simp) hfuel, List.drop_left]
    simp only [prf, hhalf]
    show (pHash _ _ _ (firstHalf secret) _ _ _ >>= _) = _
    rw [hlocal, pure_bind, houtput, pure_bind, List.take_left' (hsecond _), List.drop_left' (hsecond _), rfc2246,
      List.zipWith_comm]
    simp only [UInt8.xor_comm]
  · rw [rfc2246, List.length_zipWith, hfirst, hsecond, Nat.min_self]
  · apply zipWith_prefix
    · exact expand_prefix (hsize16 _) (by omega) output.length more
    · exact expand_prefix (hsize20 _) (by omega) output.length more
    · rw [hfirst, hsecond]

end TLS1PRF

end OpenvpnConnect.Crypto
