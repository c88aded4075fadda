import OpenvpnConnect.Crypto.History

namespace OpenvpnConnect.Crypto

open Memory

variable {υ : Type} {prims : Primitives υ} {contexts : List (Option (Context υ))}

-- Where the key of an AEAD context is, and what has been encrypted under it.
structure Key (υ : Type) where
  index : Nat
  usage : υ
deriving DecidableEq, Repr

-- A key goes where it is moved; it is gone where its object is initialized
-- again, assigned to, also from itself, or destroyed.
def Key.next (limits : UsageLimits υ) (key : Key υ) : Operation × Answer υ → Option (Key υ)
  | (.Aead other (.Init _ _ _ _), _) => if other = key.index then none else some key
  | (.Aead other (.Encrypt call _), .Sealed none _) =>
      some (if other = key.index then
        { key with usage := limits.update key.usage (call.length + call.additionalDataLen) } else key)
  | (.Move source, .Created fresh) => some (if source = key.index then { key with index := fresh } else key)
  | (.Assign target source, .Done) =>
      if target = key.index then none
      else some (if source = key.index then { key with index := target } else key)
  | (.Destroy other, _) => if other = key.index then none else some key
  | _ => some key

-- The key is in the object of that index, and a key for decryption has not been
-- used to encrypt.
structure Key.At (limits : UsageLimits υ) (handle : AeadHandle) (contexts : List (Option (Context υ)))
    (key : Key υ) : Prop where
  slot : contexts[key.index]? = some (some (.Aead ⟨some handle, key.usage⟩))
  unused : handle.encrypt = false → key.usage = limits.limited handle.algorithm

theorem aeadEncrypt_decrypting {aeads : Aeads} {handle : AeadHandle} (hdecrypting : handle.encrypt = false)
    (packet : Packet) (buffers : Buffers) : aeadEncrypt aeads handle packet buffers = (0, buffers) := by
  unfold aeadEncrypt
  rw [hdecrypting]
  rfl

-- An operation on other objects leaves the key where it is.
theorem Key.next_elsewhere {limits : UsageLimits υ} (key : Key υ) {context : CipherContextAEAD υ}
    {operation : Operation} {answer : Answer υ} (hother : ¬operation.concerns key.index (.Aead context)) :
    key.next limits (operation, answer) = some key := by
  unfold Key.next
  split <;> first | rfl | simp_all [Operation.concerns]

section Steps

variable {handle : AeadHandle} {key next : Key υ} (hat : key.At prims.limits handle contexts)
include hat

-- The equations, once for all the cases below.
attribute [local simp] Key.next

theorem Key.At.call {call : AeadMethod}
    (hnext : key.next prims.limits (.Aead key.index call,
      (Context.step prims contexts (.Aead key.index call)).1) = some next) :
    next.At prims.limits handle (Context.step prims contexts (.Aead key.index call)).2 := by
  obtain ⟨hlt, _⟩ := List.getElem?_eq_some_iff.mp hat.slot
  simp only [Context.step, join_eq hat.slot] at hnext ⊢
  cases call with
  | Init algorithm pointer keySize mode => simp [Key.next] at hnext
  | Encrypt call buffers =>
      simp only [CipherContextAEAD.perform, CipherContextAEAD.encrypt] at hnext ⊢
      split at hnext
      · rename_i hfailed
        obtain rfl := Option.some.inj hnext
        rw [if_pos hfailed]
        exact ⟨List.getElem?_set_self hlt, hat.unused⟩
      · rename_i hencrypted
        simp only [Key.next, failureOf, if_true, Option.some.injEq] at hnext
        subst hnext
        rw [if_neg hencrypted]
        refine ⟨List.getElem?_set_self hlt, ?_⟩
        intro hdecrypting
        rw [aeadEncrypt_decrypting hdecrypting] at hencrypted
        exact absurd rfl hencrypted
  | Decrypt call buffers =>
      obtain rfl := Option.some.inj hnext
      exact ⟨List.getElem?_set_self hlt, hat.unused⟩
  | GetUsageLimit =>
      obtain rfl := Option.some.inj hnext
      exact ⟨List.getElem?_set_self hlt, hat.unused⟩

theorem Key.At.move (hnext : key.next prims.limits (.Move key.index,
      (Context.step prims contexts (.Move key.index)).1) = some next) :
    next.At prims.limits handle (Context.step prims contexts (.Move key.index)).2 := by
  simp only [Context.step, join_eq hat.slot, Key.next, if_true, Option.some.injEq] at hnext ⊢
  subst hnext
  refine ⟨?_, hat.unused⟩
  simp [CipherContextAEAD.moved]

theorem Key.At.assign {target source : Nat} (heither : target = key.index ∨ source = key.index)
    (hnext : key.next prims.limits (.Assign target source,
      (Context.step prims contexts (.Assign target source)).1) = some next) :
    next.At prims.limits handle (Context.step prims contexts (.Assign target source)).2 := by
  simp only [Context.step] at hnext ⊢
  split at hnext
  · rename_i own context htarget hsource
    have hkept : target ≠ key.index := by
      rintro rfl
      simp [Key.next] at hnext
    obtain rfl : source = key.index := heither.resolve_left hkept
    simp only [Key.next, if_neg hkept, if_true, Option.some.injEq] at hnext
    subst hnext
    rw [join_eq hat.slot] at hsource
    obtain rfl := Context.Aead.inj (Option.some.inj hsource)
    rw [if_neg hkept]
    refine ⟨List.getElem?_set_self ?_, hat.unused⟩
    rw [List.length_set]
    exact lt_of_join htarget
  · obtain rfl := Option.some.inj hnext
    exact hat

theorem Key.At.step {operation : Operation}
    (hnext : key.next prims.limits (operation, (Context.step prims contexts operation).1) = some next) :
    next.At prims.limits handle (Context.step prims contexts operation).2 := by
  by_cases hconcerns : operation.concerns key.index (.Aead ⟨some handle, key.usage⟩)
  · cases operation with
    | Aead other call =>
        obtain rfl : other = key.index := hconcerns
        exact hat.call hnext
    | Move source =>
        obtain rfl : source = key.index := hconcerns
        exact hat.move hnext
    | Assign target source => exact hat.assign hconcerns hnext
    | Destroy other =>
        obtain rfl : other = key.index := hconcerns
        simp [Key.next] at hnext
    | _ => exact hconcerns.elim
  · have hslot := @step_unconcerned υ prims contexts key.index _ operation hat.slot hconcerns
    rw [key.next_elsewhere hconcerns] at hnext
    obtain rfl := Option.some.inj hnext
    exact ⟨hslot, hat.unused⟩

end Steps

section Runs

-- The trace of a run: the operations with their answers.
abbrev Trace (υ : Type) := List (Operation × Answer υ)

-- The key that one init of the trace has set up, where it is at its end.
def SetUp (limits : UsageLimits υ) (trace : Trace υ) (algorithm : UInt32) (pointer : Pointer) (keySize : Nat)
    (mode : Int) (key : Key υ) : Prop :=
  ∃ earlier later index, trace = earlier ++ (.Aead index (.Init algorithm pointer keySize mode), .Done) :: later ∧
    history (Key.next limits) ⟨index, limits.limited algorithm⟩ later = some key

theorem aeadNew_some {algorithm : UInt32} {pointer : Pointer} {keyLen : Nat} {encrypt : Int} {handle : AeadHandle}
    (hnew : aeadNew algorithm pointer keyLen encrypt = some handle) : ∃ bytes size,
      inputSlice pointer keyLen = .ok bytes ∧ cipherKeySize algorithm = .ok size ∧
        handle = ⟨algorithm, bytes.take size, encrypt != 0⟩ := by
  unfold aeadNew at hnew
  cases hsupported : isAeadSupported algorithm with
  | false =>
      rw [hsupported] at hnew
      cases hnew
  | true =>
      rw [hsupported] at hnew
      cases hsize : cipherKeySize algorithm with
      | error message =>
          rw [hsize] at hnew
          cases hnew
      | ok size =>
          rw [hsize] at hnew
          cases hbytes : inputSlice pointer keyLen with
          | error message =>
              rw [hbytes] at hnew
              cases hnew
          | ok bytes =>
              rw [hbytes] at hnew
              refine ⟨bytes, size, rfl, rfl, ?_⟩
              change ffiPointer (if bytes.length < size then _ else _) = _ at hnew
              split at hnew
              · cases hnew
              · exact (Option.some.inj hnew).symm

theorem aeadInit_done {index : Nat} {algorithm : UInt32} {pointer : Pointer} {keySize : Nat} {mode : Int}
    (hdone : (Context.step prims contexts (.Aead index (.Init algorithm pointer keySize mode))).1 = .Done) :
    ∃ handle, aeadNew algorithm pointer keySize (if mode = ENCRYPT then 1 else 0) = some handle ∧
      Key.At prims.limits handle
        (Context.step prims contexts (.Aead index (.Init algorithm pointer keySize mode))).2
        ⟨index, prims.limits.limited algorithm⟩ := by
  simp only [Context.step] at hdone ⊢
  split at hdone
  · rename_i context hjoin
    cases hnew : aeadNew algorithm pointer keySize (if mode = ENCRYPT then 1 else 0) with
    | none =>
        simp only [CipherContextAEAD.perform, CipherContextAEAD.init, hnew] at hdone
        cases hdone
    | some handle =>
        obtain ⟨_, _, _, _, hhandle⟩ := aeadNew_some hnew
        refine ⟨handle, rfl, ?_, ?_⟩
        · simp only [CipherContextAEAD.perform, CipherContextAEAD.init, hnew]
          exact List.getElem?_set_self (lt_of_join hjoin)
        · intro _
          rw [hhandle]
  · cases hdone

theorem SetUp.at {operations : List Operation} {algorithm : UInt32} {pointer : Pointer} {keySize : Nat}
    {mode : Int} {key : Key υ}
    (hsetUp : SetUp prims.limits (operations.zip (Context.run prims [] operations).1) algorithm
      pointer keySize mode key) :
    ∃ handle, aeadNew algorithm pointer keySize (if mode = ENCRYPT then 1 else 0) = some handle ∧
      key.At prims.limits handle (Context.run prims [] operations).2 := by
  obtain ⟨earlier, later, index, htrace, hhistory⟩ := hsetUp
  have hlength := @Context.length_run υ prims [] operations
  have hoperations : operations =
      earlier.map Prod.fst ++ .Aead index (.Init algorithm pointer keySize mode) :: later.map Prod.fst := by
    have hfirst := congrArg (List.map Prod.fst) htrace
    rwa [List.map_fst_zip (by omega), List.map_append, List.map_cons] at hfirst
  have hanswers : (Context.run prims [] operations).1 =
      earlier.map Prod.snd ++ .Done :: later.map Prod.snd := by
    have hsecond := congrArg (List.map Prod.snd) htrace
    rwa [List.map_snd_zip (by omega), List.map_append, List.map_cons] at hsecond
  subst hoperations
  rw [Context.run_append] at hanswers ⊢
  obtain ⟨_, hrest⟩ := List.append_inj hanswers (by rw [Context.length_run, List.length_map, List.length_map])
  simp only [Context.run] at hrest ⊢
  obtain ⟨hdone, hlater⟩ := List.cons.inj hrest
  obtain ⟨handle, hnew, hat⟩ := aeadInit_done hdone
  refine ⟨handle, hnew, ?_⟩
  apply history_run (fun _ _ _ _ hkey hnext => Key.At.step hkey hnext) hat
  rw [hlater]
  have hzip : (later.map Prod.fst).zip (later.map Prod.snd) = later := by
    rw [← List.unzip_fst, ← List.unzip_snd]
    exact List.zip_unzip later
  rw [hzip]
  exact hhistory

theorem encrypt_sealed {handle : AeadHandle} {usageLimit : υ} {call : AeadCall} {room filled : Buffers}
    (hsealed : (CipherContextAEAD.perform prims ⟨some handle, usageLimit⟩ (.Encrypt call room)).1 =
      .Sealed none filled) :
    ∃ status, aeadEncrypt prims.aeads handle call.packet room = (status, filled) ∧ status ≠ 0 := by
  by_cases hfailed : (aeadEncrypt prims.aeads handle call.packet room).1 = 0
  · simp only [CipherContextAEAD.perform, CipherContextAEAD.encrypt, if_pos hfailed, failureOf] at hsealed
    cases hsealed
  · simp only [CipherContextAEAD.perform, CipherContextAEAD.encrypt, if_neg hfailed] at hsealed
    exact ⟨_, Prod.ext rfl (Answer.Sealed.inj hsealed).2, hfailed⟩

-- The limit of a context counts what has been encrypted under its key, since the
-- key was set up and wherever it has been moved. Under a key for decryption that
-- is nothing.
theorem usage_follows_key {operations : List Operation} {answers : List (Answer υ)} {finished : Answer υ}
    {objects : List (Option (Object υ))} {heap after : Heap Block} {algorithm : UInt32} {pointer : Pointer}
    {keySize : Nat} {mode : Int} {key : Key υ}
    (hrun : Object.run prims [] (operations ++ [.Aead key.index .GetUsageLimit]) heap =
      some ((answers ++ [finished], objects), after))
    (hanswers : answers.length = operations.length)
    (hsetUp : SetUp prims.limits (operations.zip answers) algorithm pointer keySize mode key) :
    finished = .Usage key.usage ∧ (mode ≠ ENCRYPT → key.usage = prims.limits.limited algorithm) := by
  have hall := run_answers hrun
  rw [Context.run_append] at hall
  obtain ⟨rfl, hlast⟩ := List.append_inj hall (by rw [hanswers, Context.length_run])
  obtain ⟨handle, hnew, hat⟩ := hsetUp.at
  obtain ⟨_, _, _, _, hhandle⟩ := aeadNew_some hnew
  constructor
  · obtain rfl := (List.cons.inj hlast).1
    simp only [join_eq hat.slot]
    rfl
  · intro hdecrypting
    rw [hat.unused (by rw [hhandle, if_neg hdecrypting]; rfl), hhandle]

-- A packet that has been sealed under one of two keys that were set up from the
-- same bytes is opened under the other one: at any time, and wherever the keys
-- have been moved.
theorem sealed_packets_open {first second : List Operation} {before during : List (Answer υ)} {finished : Answer υ}
    {objects : List (Option (Object υ))} {heap final : Heap Block} {algorithm : UInt32} {pointer : Pointer}
    {keySize : Nat} {sender receiver : Key υ} {sent received : AeadCall} {room filled buffers : Buffers}
    (hrun : Object.run prims [] (first ++ .Aead sender.index (.Encrypt sent room) ::
      (second ++ [.Aead receiver.index (.Decrypt received buffers)])) heap =
        some ((before ++ .Sealed none filled :: (during ++ [finished]), objects), final))
    (hbefore : before.length = first.length) (hduring : during.length = second.length)
    (hsender : SetUp prims.limits (first.zip before) algorithm pointer keySize ENCRYPT sender)
    (hreceiver : SetUp prims.limits ((first ++ .Aead sender.index (.Encrypt sent room) :: second).zip
      (before ++ .Sealed none filled :: during)) algorithm pointer keySize DECRYPT receiver)
    (hlong : ∀ input, sent.input = some input → sent.length ≤ input.length)
    (harrives : Arrives sent filled received buffers) :
    ∃ plaintext, inputSlice sent.input sent.length = .ok plaintext ∧
      finished = .Opened true (buffers.setOutput plaintext) := by
  obtain ⟨contexts, hcontexts, hsealed, rfl, rfl⟩ := run_parts hrun hbefore hduring
  have hboth : Context.run prims [] (first ++ .Aead sender.index (.Encrypt sent room) :: second) =
      (before ++ .Sealed none filled ::
        (Context.run prims (Context.step prims contexts (.Aead sender.index (.Encrypt sent room))).2 second).1,
      (Context.run prims (Context.step prims contexts (.Aead sender.index (.Encrypt sent room))).2 second).2) := by
    rw [Context.run_append, hcontexts]
    simp only [Context.run, hsealed]
  obtain rfl : (Context.run prims [] first).1 = before := by rw [hcontexts]
  obtain ⟨handle, hnew, hat⟩ := hsender.at
  rw [hcontexts] at hat
  obtain ⟨bytes, size, hbytes, hsize, rfl⟩ := aeadNew_some hnew
  have htrace := congrArg Prod.fst hboth
  simp only at htrace
  rw [← htrace] at hreceiver
  obtain ⟨handle', hnew', hat'⟩ := hreceiver.at
  rw [hboth] at hat'
  obtain ⟨bytes', size', hbytes', hsize', rfl⟩ := aeadNew_some hnew'
  obtain rfl := Except.ok.inj (hbytes.symm.trans hbytes')
  obtain rfl := Except.ok.inj (hsize.symm.trans hsize')
  simp only [Context.step, join_eq hat.slot] at hsealed
  obtain ⟨status, hencrypt, hstatus⟩ := encrypt_sealed hsealed
  obtain ⟨plaintext, tag, hplaintext, htag, hdecrypt⟩ :=
    aeadDecrypt_of_arrives hencrypt hstatus hlong harrives
  refine ⟨plaintext, hplaintext, ?_⟩
  generalize (Context.run prims _ second).2 = reached at hat' ⊢
  simp only [Context.step, join_eq hat'.slot, CipherContextAEAD.perform, CipherContextAEAD.decrypt, htag]
  show Answer.Opened (decide ((aeadDecrypt prims.aeads ⟨algorithm, bytes.take size, false⟩ received.packet
    buffers).1 ≠ 0)) (aeadDecrypt prims.aeads ⟨algorithm, bytes.take size, false⟩ received.packet buffers).2 = _
  rw [hdecrypt]
  rfl

end Runs

section Samples

def sentPacket : AeadCall := ⟨some (zeros 16), 16, some (zeros 12), none, 0⟩

def receivedPacket : AeadCall := ⟨some gcmKeystream, 16, some (zeros 12), none, 0⟩

def room : Buffers := ⟨some (zeros 16), some (zeros 16)⟩

def keyInit (index : Nat) (mode : Int) : Operation := .Aead index (.Init AES_128_GCM (some (zeros 16)) 16 mode)

def movedSender : List Operation :=
  [.Declare .Aead, keyInit 0 ENCRYPT, .Aead 0 (.Encrypt sentPacket room), .Move 0]

def movedAnswers : List (Answer Nat) :=
  [.Created 0, .Done, .Sealed none ⟨some gcmKeystream, some gcmTag⟩, .Created 1]

theorem usage_follows_key_moved : ∃ objects after,
    Object.run samples [] (movedSender ++ [.Aead 1 .GetUsageLimit]) (Heap.empty fun _ => true) =
      some ((movedAnswers ++ [.Usage 16], objects), after) ∧
    @Answer.Usage Nat 16 = .Usage 16 ∧ (ENCRYPT ≠ ENCRYPT → 16 = samples.limits.limited AES_128_GCM) := by
  obtain ⟨objects, after, hrun⟩ :=
    run_defined samples (movedSender ++ [.Aead 1 .GetUsageLimit]) (Heap.empty fun _ => true)
  have hanswers : (Context.run samples [] (movedSender ++ [.Aead 1 .GetUsageLimit])).1 =
      movedAnswers ++ [.Usage 16] := by decide
  rw [hanswers] at hrun
  have hsetUp : SetUp samples.limits (movedSender.zip movedAnswers) AES_128_GCM (some (zeros 16)) 16 ENCRYPT
      ⟨1, 16⟩ := ⟨[(.Declare .Aead, .Created 0)], _, 0, rfl, rfl⟩
  exact ⟨objects, after, hrun, @usage_follows_key Nat samples _ _ _ _ _ _ _ _ _ _ ⟨1, 16⟩ hrun rfl hsetUp⟩

def twoKeys : List Operation := [.Declare .Aead, .Declare .Aead, keyInit 0 ENCRYPT, keyInit 1 DECRYPT]

def twoAnswers : List (Answer Nat) := [.Created 0, .Created 1, .Done, .Done]

def arrived : Buffers := ⟨some (List.replicate 16 7), some gcmTag⟩

def exchangeRun : List Operation :=
  twoKeys ++ .Aead 0 (.Encrypt sentPacket room) :: ([.Move 1] ++ [.Aead 2 (.Decrypt receivedPacket arrived)])

theorem sealed_packets_open_moved : ∃ finished : Answer Nat,
    (∃ objects after, Object.run samples [] exchangeRun (Heap.empty fun _ => true) =
      some ((twoAnswers ++ .Sealed none ⟨some gcmKeystream, some gcmTag⟩ :: ([.Created 2] ++ [finished]), objects),
        after)) ∧
    ∃ plaintext, inputSlice sentPacket.input sentPacket.length = .ok plaintext ∧
      finished = .Opened true (arrived.setOutput plaintext) := by
  obtain ⟨objects, after, hrun⟩ := run_defined samples exchangeRun (Heap.empty fun _ => true)
  have hanswers : (Context.run samples [] exchangeRun).1 = twoAnswers ++
      .Sealed none ⟨some gcmKeystream, some gcmTag⟩ ::
        ([.Created 2] ++ [.Opened true ⟨some (zeros 16), some gcmTag⟩]) := by decide
  rw [hanswers] at hrun
  have hsender : SetUp samples.limits (twoKeys.zip twoAnswers) AES_128_GCM (some (zeros 16)) 16 ENCRYPT ⟨0, 0⟩ :=
    ⟨[(.Declare .Aead, .Created 0), (.Declare .Aead, .Created 1)], _, 0, rfl, rfl⟩
  have hreceiver : SetUp samples.limits
      ((twoKeys ++ Operation.Aead 0 (.Encrypt sentPacket room) :: [.Move 1]).zip
        (twoAnswers ++ Answer.Sealed none ⟨some gcmKeystream, some gcmTag⟩ :: [.Created 2]))
      AES_128_GCM (some (zeros 16)) 16 DECRYPT ⟨2, 0⟩ :=
    ⟨[(.Declare .Aead, .Created 0), (.Declare .Aead, .Created 1), (keyInit 0 ENCRYPT, .Done)], _, 1, rfl, rfl⟩
  have hlong : ∀ input, sentPacket.input = some input → sentPacket.length ≤ input.length := by
    intro input hinput
    obtain rfl := Option.some.inj hinput
    decide
  have harrives : Arrives sentPacket ⟨some gcmKeystream, some gcmTag⟩ receivedPacket arrived := by
    constructor <;> decide
  exact ⟨_, ⟨objects, after, hrun⟩, @sealed_packets_open Nat samples _ _ _ _ _ _ _ _ _ _ _ ⟨0, 0⟩ ⟨2, 0⟩ _ _ _ _ _
    hrun rfl rfl hsender hreceiver hlong harrives⟩

end Samples

end OpenvpnConnect.Crypto
