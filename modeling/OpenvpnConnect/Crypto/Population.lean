import OpenvpnConnect.Crypto.Objects

namespace OpenvpnConnect.Crypto

open Memory

inductive Kind
  | Digest
  | Hmac
  | Cipher
  | Aead
deriving DecidableEq, Repr

-- What C++ may do with its context objects. Only an AEAD context can be moved.
inductive Operation
  | Declare (kind : Kind)
  | ConstructDigest (algorithm : UInt32)
  | ConstructHmac (algorithm : UInt32) (key : Bytes)
  | Digest (index : Nat) (call : DigestCall)
  | Hmac (index : Nat) (call : HmacCall)
  | Cipher (index : Nat) (call : CipherCall)
  | Aead (index : Nat) (call : AeadMethod)
  | Move (source : Nat)
  | Assign (target source : Nat)
  | Destroy (index : Nat)
deriving DecidableEq, Repr

-- CryptoAlgs::NONE
def NONE : UInt32 := 0

section Objects

variable {υ : Type} (prims : Primitives υ)

-- The objects with their handles.
inductive Object (υ : Type)
  | Digest (handle : Option Nat)
  | Hmac (handle : Option Nat)
  | Cipher (handle : Option Nat) (algorithm : UInt32)
  | Aead (handle : Option Nat) (usageLimit : υ)
deriving DecidableEq, Repr

def Object.new : Kind → Object υ
  | .Digest => .Digest none
  | .Hmac => .Hmac none
  | .Cipher => .Cipher none NONE
  | .Aead => .Aead none prims.limits.unlimited

-- The destructor.
def Object.destroy : Option (Object υ) → Ffi Unit
  | none => pure ()
  | some (.Digest handle) => digestBox.release handle
  | some (.Hmac handle) => hmacBox.release handle
  | some (.Cipher handle _) => cipherBox.release handle
  | some (.Aead handle _) => aeadBox.release handle

-- An operation on an object that does not exist is not one.
def Object.step (objects : List (Option (Object υ))) : Operation → Ffi (Answer υ × List (Option (Object υ)))
  | .Declare kind => pure (.Created objects.length, objects ++ [some (Object.new prims kind)])
  -- There is no object where its constructor throws.
  | .ConstructDigest algorithm => do
      let (answer, handle) ← digestCall prims none (.Init algorithm)
      return (if handle.isNone then answer else .Created objects.length,
        objects ++ [handle.map fun place => .Digest (some place)])
  | .ConstructHmac algorithm key => do
      let (answer, handle) ← hmacCall prims none (.Init algorithm key)
      return (if handle.isNone then answer else .Created objects.length,
        objects ++ [handle.map fun place => .Hmac (some place)])
  | .Digest index call =>
      match objects[index]?.join with
      | some (.Digest handle) => do
          let (answer, handle) ← digestCall prims handle call
          return (answer, objects.set index (some (.Digest handle)))
      | _ => pure (.Absent, objects)
  | .Hmac index call =>
      match objects[index]?.join with
      | some (.Hmac handle) => do
          let (answer, handle) ← hmacCall prims handle call
          return (answer, objects.set index (some (.Hmac handle)))
      | _ => pure (.Absent, objects)
  | .Cipher index call =>
      match objects[index]?.join with
      | some (.Cipher handle algorithm) => do
          let (answer, handle, algorithm) ← cipherCall prims handle algorithm call
          return (answer, objects.set index (some (.Cipher handle algorithm)))
      | _ => pure (.Absent, objects)
  | .Aead index call =>
      match objects[index]?.join with
      | some (.Aead handle usageLimit) => do
          let (answer, handle, usageLimit) ← aeadCall prims handle usageLimit call
          return (answer, objects.set index (some (.Aead handle usageLimit)))
      | _ => pure (.Absent, objects)
  | .Move source =>
      match objects[source]?.join with
      | some (.Aead handle usageLimit) =>
          pure (.Created objects.length,
            objects.set source (some (.Aead none usageLimit)) ++ [some (.Aead handle usageLimit)])
      | _ => pure (.Absent, objects)
  -- erase() is not guarded against an assignment to itself, the move of the handle is.
  | .Assign target source =>
      match objects[target]?.join, objects[source]?.join with
      | some (.Aead own _), some (.Aead handle usageLimit) => do
          aeadBox.release own
          if target = source then
            return (.Done, objects.set target (some (.Aead none usageLimit)))
          else
            return (.Done, (objects.set source (some (.Aead none usageLimit))).set target
              (some (.Aead handle usageLimit)))
      | _, _ => pure (.Absent, objects)
  | .Destroy index => do
      Object.destroy objects[index]?.join
      return (.Done, objects.set index none)

def Object.run (objects : List (Option (Object υ))) :
    List Operation → Ffi (List (Answer υ) × List (Option (Object υ)))
  | [] => pure ([], objects)
  | operation :: rest => do
      let (answer, objects) ← Object.step prims objects operation
      let (answers, objects) ← Object.run objects rest
      return (answer :: answers, objects)

-- All objects, from the first one to the end of the last one's life.
def Object.lives (operations : List Operation) : Ffi (List (Answer υ)) := do
  let (answers, objects) ← Object.run prims [] operations
  objects.forM Object.destroy
  return answers

end Objects

section Contexts

variable {υ : Type} (prims : Primitives υ)

-- The same objects, each with a value of its own and no memory.
inductive Context (υ : Type)
  | Digest (context : DigestContext)
  | Hmac (context : HMACContext)
  | Cipher (context : CipherContext)
  | Aead (context : CipherContextAEAD υ)
deriving DecidableEq, Repr

def Context.new : Kind → Context υ
  | .Digest => .Digest ⟨none⟩
  | .Hmac => .Hmac ⟨none⟩
  | .Cipher => .Cipher ⟨none, NONE⟩
  | .Aead => .Aead (CipherContextAEAD.new prims.limits)

def Context.step (contexts : List (Option (Context υ))) : Operation → Answer υ × List (Option (Context υ))
  | .Declare kind => (.Created contexts.length, contexts ++ [some (Context.new prims kind)])
  | .ConstructDigest algorithm =>
      let (answer, context) := DigestContext.perform prims ⟨none⟩ (.Init algorithm)
      (if context.handle.isNone then answer else .Created contexts.length,
        contexts ++ [context.handle.map fun _ => .Digest context])
  | .ConstructHmac algorithm key =>
      let (answer, context) := HMACContext.perform prims ⟨none⟩ (.Init algorithm key)
      (if context.handle.isNone then answer else .Created contexts.length,
        contexts ++ [context.handle.map fun _ => .Hmac context])
  | .Digest index call =>
      match contexts[index]?.join with
      | some (.Digest context) =>
          let (answer, context) := context.perform prims call
          (answer, contexts.set index (some (.Digest context)))
      | _ => (.Absent, contexts)
  | .Hmac index call =>
      match contexts[index]?.join with
      | some (.Hmac context) =>
          let (answer, context) := context.perform prims call
          (answer, contexts.set index (some (.Hmac context)))
      | _ => (.Absent, contexts)
  | .Cipher index call =>
      match contexts[index]?.join with
      | some (.Cipher context) =>
          let (answer, context) := context.perform prims call
          (answer, contexts.set index (some (.Cipher context)))
      | _ => (.Absent, contexts)
  | .Aead index call =>
      match contexts[index]?.join with
      | some (.Aead context) =>
          let (answer, context) := context.perform prims call
          (answer, contexts.set index (some (.Aead context)))
      | _ => (.Absent, contexts)
  | .Move source =>
      match contexts[source]?.join with
      | some (.Aead context) =>
          (.Created contexts.length,
            contexts.set source (some (.Aead context.moved.2)) ++ [some (.Aead context.moved.1)])
      | _ => (.Absent, contexts)
  | .Assign target source =>
      match contexts[target]?.join, contexts[source]?.join with
      | some (.Aead _), some (.Aead context) =>
          (.Done, if target = source then contexts.set target (some (.Aead context.moved.2))
            else (contexts.set source (some (.Aead context.moved.2))).set target (some (.Aead context.moved.1)))
      | _, _ => (.Absent, contexts)
  | .Destroy index => (.Done, contexts.set index none)

def Context.run (contexts : List (Option (Context υ))) :
    List Operation → List (Answer υ) × List (Option (Context υ))
  | [] => ([], contexts)
  | operation :: rest =>
      let (answer, contexts) := Context.step prims contexts operation
      let (answers, contexts) := Context.run contexts rest
      (answer :: answers, contexts)

end Contexts

section Refinement

variable {υ : Type} {prims : Primitives υ} {grants : Nat → Bool} {cells : Cells Block}

-- An object with the value that its handle stands for.
inductive Slot : Option (Context υ) → Option (Object υ) → Cells Block → Prop
  | Gone : Slot none none 0
  | Digest {context : DigestContext} {handle : Option Nat} {cells : Cells Block} :
      digestBox.Held context.handle handle cells → Slot (some (.Digest context)) (some (.Digest handle)) cells
  | Hmac {context : HMACContext} {handle : Option Nat} {cells : Cells Block} :
      hmacBox.Held context.handle handle cells → Slot (some (.Hmac context)) (some (.Hmac handle)) cells
  | Cipher {context : CipherContext} {handle : Option Nat} {cells : Cells Block} :
      cipherBox.Held context.handle handle cells →
        Slot (some (.Cipher context)) (some (.Cipher handle context.algorithm)) cells
  | Aead {context : CipherContextAEAD υ} {handle : Option Nat} {cells : Cells Block} :
      aeadBox.Held context.handle handle cells →
        Slot (some (.Aead context)) (some (.Aead handle context.usageLimit)) cells

theorem Slot.new (kind : Kind) : Slot (some (Context.new prims kind)) (some (Object.new prims kind)) 0 := by
  cases kind with
  | Digest => exact .Digest .Null
  | Hmac => exact .Hmac .Null
  | Cipher => exact @Slot.Cipher υ ⟨none, NONE⟩ none 0 .Null
  | Aead => exact @Slot.Aead υ (CipherContextAEAD.new prims.limits) none 0 .Null

theorem Slot.ofDigest {context : DigestContext} {handle : Option Nat}
    (hheld : digestBox.Held context.handle handle cells) :
    @Slot υ (context.handle.map fun _ => .Digest context)
      (handle.map fun place => .Digest (some place)) cells := by
  obtain ⟨value⟩ := context
  cases hheld with
  | Null => exact .Gone
  | Box value place => exact .Digest (.Box value place)

theorem Slot.ofHmac {context : HMACContext} {handle : Option Nat}
    (hheld : hmacBox.Held context.handle handle cells) :
    @Slot υ (context.handle.map fun _ => .Hmac context) (handle.map fun place => .Hmac (some place)) cells := by
  obtain ⟨value⟩ := context
  cases hheld with
  | Null => exact .Gone
  | Box value place => exact .Hmac (.Box value place)

theorem Slot.destroy {context : Option (Context υ)} {object : Option (Object υ)}
    (hslot : Slot context object cells) :
    Triple grants cells (Object.destroy object) fun _ after => after = 0 := by
  cases hslot with
  | Gone => exact Triple.pure () rfl
  | Digest hheld => exact hheld.release
  | Hmac hheld => exact hheld.release
  | Cipher hheld => exact hheld.release
  | Aead hheld => exact hheld.release

-- Where a context is, its object is, with what it owns.
theorem Each.select {contexts : List (Option (Context υ))} {objects : List (Option (Object υ))}
    (heach : Each Slot contexts objects cells) (index : Nat) :
    (contexts[index]?.join = none ∧ objects[index]?.join = none) ∨
      ∃ context object own rest, contexts[index]?.join = some context ∧ objects[index]?.join = some object ∧
        Slot (some context) (some object) own ∧ cells = own + rest ∧
        ∀ context' object' own', Slot context' object' own' →
          Each Slot (contexts.set index context') (objects.set index object') (own' + rest) := by
  cases hcontext : contexts[index]? with
  | none => exact .inl ⟨rfl, by rw [heach.getElem?_eq_none hcontext]; rfl⟩
  | some context =>
      obtain ⟨object, own, rest, hobject, hslot, hcells, hset⟩ := heach.focus hcontext
      rw [hobject]
      cases context with
      | none =>
          cases hslot
          exact .inl ⟨rfl, rfl⟩
      | some context =>
          cases object with
          | none => cases hslot
          | some object => exact .inr ⟨context, object, own, rest, rfl, rfl, hslot, hcells, hset⟩

-- What a step leaves: the answer of the values, and their objects.
def Matches (result : Answer υ × List (Option (Context υ))) (reached : Answer υ × List (Option (Object υ)))
    (after : Cells Block) : Prop :=
  reached.1 = result.1 ∧ Each Slot result.2 reached.2 after

section Steps

variable {contexts : List (Option (Context υ))} {objects : List (Option (Object υ))}
  (heach : Each Slot contexts objects cells)
include heach

-- The equations, once for all the cases below.
attribute [local simp] Object.step Context.step

theorem digest_step (index : Nat) (call : DigestCall) :
    Triple grants cells (Object.step prims objects (.Digest index call))
      (Matches (Context.step prims contexts (.Digest index call))) := by
  simp only [Object.step, Context.step]
  rcases Each.select heach index with
    ⟨hcontext, hobject⟩ | ⟨context, object, own, rest, hcontext, hobject, hslot, rfl, hset⟩
  · rw [hcontext, hobject]
    exact Triple.pure _ ⟨rfl, heach⟩
  · rw [hcontext, hobject]
    cases hslot with
    | Digest hheld =>
        apply (digestCall_triple hheld call).step rfl
        rintro ⟨answer, handle⟩ after ⟨rfl, hafter⟩
        exact Triple.pure _ ⟨rfl, hset _ _ _ (.Digest hafter)⟩
    | Hmac _ => exact Triple.pure _ ⟨rfl, heach⟩
    | Cipher _ => exact Triple.pure _ ⟨rfl, heach⟩
    | Aead _ => exact Triple.pure _ ⟨rfl, heach⟩

theorem hmac_step (index : Nat) (call : HmacCall) :
    Triple grants cells (Object.step prims objects (.Hmac index call))
      (Matches (Context.step prims contexts (.Hmac index call))) := by
  simp only [Object.step, Context.step]
  rcases Each.select heach index with
    ⟨hcontext, hobject⟩ | ⟨context, object, own, rest, hcontext, hobject, hslot, rfl, hset⟩
  · rw [hcontext, hobject]
    exact Triple.pure _ ⟨rfl, heach⟩
  · rw [hcontext, hobject]
    cases hslot with
    | Digest _ => exact Triple.pure _ ⟨rfl, heach⟩
    | Hmac hheld =>
        apply (hmacCall_triple hheld call).step rfl
        rintro ⟨answer, handle⟩ after ⟨rfl, hafter⟩
        exact Triple.pure _ ⟨rfl, hset _ _ _ (.Hmac hafter)⟩
    | Cipher _ => exact Triple.pure _ ⟨rfl, heach⟩
    | Aead _ => exact Triple.pure _ ⟨rfl, heach⟩

theorem cipher_step (index : Nat) (call : CipherCall) :
    Triple grants cells (Object.step prims objects (.Cipher index call))
      (Matches (Context.step prims contexts (.Cipher index call))) := by
  simp only [Object.step, Context.step]
  rcases Each.select heach index with
    ⟨hcontext, hobject⟩ | ⟨context, object, own, rest, hcontext, hobject, hslot, rfl, hset⟩
  · rw [hcontext, hobject]
    exact Triple.pure _ ⟨rfl, heach⟩
  · rw [hcontext, hobject]
    cases hslot with
    | Digest _ => exact Triple.pure _ ⟨rfl, heach⟩
    | Hmac _ => exact Triple.pure _ ⟨rfl, heach⟩
    | Cipher hheld =>
        apply (cipherCall_triple hheld call).step rfl
        rintro ⟨answer, handle, algorithm⟩ after ⟨rfl, rfl, hafter⟩
        exact Triple.pure _ ⟨rfl, hset _ _ _ (.Cipher hafter)⟩
    | Aead _ => exact Triple.pure _ ⟨rfl, heach⟩

theorem aead_step (index : Nat) (call : AeadMethod) :
    Triple grants cells (Object.step prims objects (.Aead index call))
      (Matches (Context.step prims contexts (.Aead index call))) := by
  simp only [Object.step, Context.step]
  rcases Each.select heach index with
    ⟨hcontext, hobject⟩ | ⟨context, object, own, rest, hcontext, hobject, hslot, rfl, hset⟩
  · rw [hcontext, hobject]
    exact Triple.pure _ ⟨rfl, heach⟩
  · rw [hcontext, hobject]
    cases hslot with
    | Digest _ => exact Triple.pure _ ⟨rfl, heach⟩
    | Hmac _ => exact Triple.pure _ ⟨rfl, heach⟩
    | Cipher _ => exact Triple.pure _ ⟨rfl, heach⟩
    | Aead hheld =>
        apply (aeadCall_triple hheld call).step rfl
        rintro ⟨answer, handle, usageLimit⟩ after ⟨rfl, rfl, hafter⟩
        exact Triple.pure _ ⟨rfl, hset _ _ _ (.Aead hafter)⟩

theorem append_step {context : Option (Context υ)} {object : Option (Object υ)} {own : Cells Block}
    (hslot : Slot context object own) {first second : Answer υ} (hanswer : second = first) :
    Matches (first, contexts ++ [context]) (second, objects ++ [object]) (own + cells) := by
  refine ⟨hanswer, ?_⟩
  rw [add_comm]
  exact heach.snoc hslot

theorem constructDigest_step (algorithm : UInt32) :
    Triple grants cells (Object.step prims objects (.ConstructDigest algorithm))
      (Matches (Context.step prims contexts (.ConstructDigest algorithm))) := by
  have hfresh : digestBox.Held (DigestContext.mk none).handle none (0 : Cells Block) := .Null
  apply (digestCall_triple hfresh (.Init algorithm)).step (zero_add cells).symm
  rintro ⟨answer, handle⟩ after ⟨rfl, hafter⟩
  apply Triple.pure
  exact append_step heach (Slot.ofDigest hafter) (by
    rw [hafter.isNone_eq, heach.length_eq]
    rfl)

theorem constructHmac_step (algorithm : UInt32) (key : Bytes) :
    Triple grants cells (Object.step prims objects (.ConstructHmac algorithm key))
      (Matches (Context.step prims contexts (.ConstructHmac algorithm key))) := by
  have hfresh : hmacBox.Held (HMACContext.mk none).handle none (0 : Cells Block) := .Null
  apply (hmacCall_triple hfresh (.Init algorithm key)).step (zero_add cells).symm
  rintro ⟨answer, handle⟩ after ⟨rfl, hafter⟩
  apply Triple.pure
  exact append_step heach (Slot.ofHmac hafter) (by
    rw [hafter.isNone_eq, heach.length_eq]
    rfl)

theorem move_step (source : Nat) :
    Triple grants cells (Object.step prims objects (.Move source))
      (Matches (Context.step prims contexts (.Move source))) := by
  simp only [Object.step, Context.step]
  rcases Each.select heach source with
    ⟨hcontext, hobject⟩ | ⟨context, object, own, rest, hcontext, hobject, hslot, rfl, hset⟩
  · rw [hcontext, hobject]
    exact Triple.pure _ ⟨rfl, heach⟩
  · rw [hcontext, hobject]
    cases hslot with
    | Digest _ => exact Triple.pure _ ⟨rfl, heach⟩
    | Hmac _ => exact Triple.pure _ ⟨rfl, heach⟩
    | Cipher _ => exact Triple.pure _ ⟨rfl, heach⟩
    | @Aead context _ _ hheld =>
        have hleft := hset (some (.Aead context.moved.2)) _ 0 (.Aead .Null)
        rw [zero_add] at hleft
        exact Triple.pure _ (append_step hleft (.Aead hheld) (by rw [heach.length_eq]))

theorem assign_step (target source : Nat) :
    Triple grants cells (Object.step prims objects (.Assign target source))
      (Matches (Context.step prims contexts (.Assign target source))) := by
  simp only [Object.step, Context.step]
  rcases Each.select heach target with
    ⟨hcontext, hobject⟩ | ⟨context, object, own, rest, hcontext, hobject, hslot, rfl, hset⟩
  · rw [hcontext, hobject]
    exact Triple.pure _ ⟨rfl, heach⟩
  · rw [hcontext, hobject]
    cases hslot with
    | Digest _ => exact Triple.pure _ ⟨rfl, heach⟩
    | Hmac _ => exact Triple.pure _ ⟨rfl, heach⟩
    | Cipher _ => exact Triple.pure _ ⟨rfl, heach⟩
    | @Aead own handle _ hown =>
        by_cases hself : target = source
        · subst hself
          simp only [hcontext, hobject, if_true]
          apply hown.release.step rfl
          rintro _ _ rfl
          exact Triple.pure _ ⟨rfl, hset (some (.Aead own.moved.2)) _ 0 (.Aead .Null)⟩
        · rcases Each.select heach source with
            ⟨hcontext', hobject'⟩ | ⟨other, object', mine, more, hcontext', hobject', hslot', hcells, hset'⟩
          · rw [hcontext', hobject']
            exact Triple.pure _ ⟨rfl, heach⟩
          · rw [hcontext', hobject']
            cases hslot' with
            | Digest _ => exact Triple.pure _ ⟨rfl, heach⟩
            | Hmac _ => exact Triple.pure _ ⟨rfl, heach⟩
            | Cipher _ => exact Triple.pure _ ⟨rfl, heach⟩
            | @Aead other handle' _ hother =>
                simp only [if_neg hself]
                -- The source is emptied first, and its box is kept aside.
                have hleft := hset' (some (.Aead other.moved.2)) _ 0 (.Aead .Null)
                have hkept : (contexts.set source (some (.Aead other.moved.2)))[target]?.join =
                    some (.Aead own) := by
                  rw [List.getElem?_set_ne (Ne.symm hself), hcontext]
                obtain ⟨hgone, _⟩ | ⟨_, _, theirs, last, hthen, hobject'', hslot'', hmore, hset''⟩ :=
                  Each.select hleft target
                · rw [hkept] at hgone
                  cases hgone
                · rw [hkept] at hthen
                  rw [List.getElem?_set_ne (Ne.symm hself), hobject] at hobject''
                  obtain rfl := Option.some.inj hthen
                  obtain rfl := Option.some.inj hobject''
                  rw [zero_add] at hmore
                  rw [hcells, hmore, add_left_comm]
                  cases hslot'' with
                  | Aead htheirs =>
                      apply htheirs.release.step rfl
                      rintro _ _ rfl
                      rw [zero_add]
                      exact Triple.pure _ ⟨rfl, hset'' _ _ _ (.Aead hother)⟩

theorem destroy_step (index : Nat) :
    Triple grants cells (Object.step prims objects (.Destroy index))
      (Matches (Context.step prims contexts (.Destroy index))) := by
  simp only [Object.step, Context.step]
  cases hcontext : contexts[index]? with
  | none =>
      have hobject := heach.getElem?_eq_none hcontext
      rw [hobject, List.set_eq_of_length_le (List.getElem?_eq_none_iff.mp hcontext),
        List.set_eq_of_length_le (List.getElem?_eq_none_iff.mp hobject)]
      exact Triple.pure _ ⟨rfl, heach⟩
  | some context =>
      obtain ⟨object, own, rest, hobject, hslot, rfl, hset⟩ := heach.focus hcontext
      rw [hobject]
      apply hslot.destroy.step rfl
      rintro _ _ rfl
      exact Triple.pure _ ⟨rfl, hset none none 0 .Gone⟩

theorem step_triple (operation : Operation) :
    Triple grants cells (Object.step prims objects operation)
      (Matches (Context.step prims contexts operation)) := by
  cases operation with
  | Declare kind =>
      apply Triple.pure
      have hafter := append_step heach (@Slot.new υ prims kind) (congrArg Answer.Created heach.length_eq.symm)
      rwa [zero_add] at hafter
  | ConstructDigest algorithm => exact constructDigest_step heach algorithm
  | ConstructHmac algorithm key => exact constructHmac_step heach algorithm key
  | Digest index call => exact digest_step heach index call
  | Hmac index call => exact hmac_step heach index call
  | Cipher index call => exact cipher_step heach index call
  | Aead index call => exact aead_step heach index call
  | Move source => exact move_step heach source
  | Assign target source => exact assign_step heach target source
  | Destroy index => exact destroy_step heach index

theorem run_triple (operations : List Operation) :
    Triple grants cells (Object.run prims objects operations) fun result after =>
      result.1 = (Context.run prims contexts operations).1 ∧
        Each Slot (Context.run prims contexts operations).2 result.2 after := by
  induction operations generalizing contexts objects cells with
  | nil => exact Triple.pure _ ⟨rfl, heach⟩
  | cons operation rest ih =>
      apply (step_triple heach operation).bind
      rintro ⟨answer, objects⟩ between ⟨rfl, hbetween⟩
      apply (ih hbetween).bind
      rintro ⟨answers, objects⟩ after ⟨rfl, hafter⟩
      exact Triple.pure _ ⟨rfl, hafter⟩

end Steps

def Object.handle : Object υ → Option Nat
  | .Digest handle => handle
  | .Hmac handle => handle
  | .Cipher handle _ => handle
  | .Aead handle _ => handle

-- The boxes that the objects have.
def places (objects : List (Option (Object υ))) : List Nat :=
  objects.filterMap fun object => object.bind Object.handle

theorem Slot.addresses_eq {context : Option (Context υ)} {object : Option (Object υ)}
    (hslot : Slot context object cells) : addresses cells = ↑(object.bind Object.handle).toList := by
  cases hslot with
  | Gone => rfl
  | Digest hheld => exact hheld.addresses_eq
  | Hmac hheld => exact hheld.addresses_eq
  | Cipher hheld => exact hheld.addresses_eq
  | Aead hheld => exact hheld.addresses_eq

theorem addresses_eq_places {contexts : List (Option (Context υ))} {objects : List (Option (Object υ))}
    (heach : Each Slot contexts objects cells) : addresses cells = ↑(places objects) := by
  induction heach with
  | Nil => rfl
  | @Cons context object contexts objects own rest hslot _ ih =>
      rw [addresses_add, ih, hslot.addresses_eq, Multiset.coe_add, places, places]
      cases hhandle : object.bind Object.handle <;> simp [hhandle]

-- Every run of the objects is defined: no box is used or released after its
-- release, or as one of another type. The answers are those of contexts without
-- memory. Each box belongs to one object while the run lasts, and none is left
-- when the objects are gone.
theorem objects_own_handles (prims : Primitives υ) (operations : List Operation) (heap : Heap Block) :
    (∃ objects between,
      Object.run prims [] operations heap = some (((Context.run prims [] operations).1, objects), between) ∧
      (places objects).Nodup ∧
      (∀ place ∈ places objects, heap.blocks place = none ∧ (between.blocks place).isSome) ∧
      ∀ place ∉ places objects, between.blocks place = heap.blocks place) ∧
    ∃ after, Object.lives prims operations heap = some ((Context.run prims [] operations).1, after) ∧
      after.blocks = heap.blocks := by
  have hrun := @run_triple υ prims heap.grants 0 [] [] .Nil operations
  constructor
  · obtain ⟨⟨answers, objects⟩, between, cells, hdefined, ⟨rfl, heach⟩, _, hholds⟩ :=
      hrun heap.blocks heap rfl (Holds.nothing heap)
    have hplaces := addresses_eq_places heach
    refine ⟨objects, between, hdefined, ?_, ?_, ?_⟩
    · have hdistinct := hholds.distinct
      rwa [hplaces, Multiset.coe_nodup] at hdistinct
    · intro place hplace
      have hmem : place ∈ addresses cells := by rwa [hplaces]
      obtain ⟨cell, hcell, rfl⟩ := Multiset.mem_map.mp hmem
      refine ⟨hholds.apart _ hmem, ?_⟩
      rw [hholds.live cell hcell]
      rfl
    · intro place hplace
      exact hholds.rest place (by rwa [hplaces])
  · have hlives : Triple heap.grants 0 (Object.lives prims operations) fun answers cells =>
        answers = (Context.run prims [] operations).1 ∧ cells = 0 := by
      apply hrun.bind
      rintro ⟨answers, objects⟩ cells ⟨rfl, heach⟩
      apply (heach.release fun _ _ _ hslot => hslot.destroy).bind
      rintro _ _ rfl
      exact Triple.pure _ ⟨rfl, rfl⟩
    obtain ⟨_, after, hdefined, rfl, hblocks, _⟩ := hlives.run rfl
    exact ⟨after, hdefined, hblocks⟩

end Refinement

end OpenvpnConnect.Crypto
