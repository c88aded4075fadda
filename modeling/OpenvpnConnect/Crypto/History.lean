import OpenvpnConnect.Crypto.Population

namespace OpenvpnConnect.Crypto

open Memory

section Traces

variable {υ : Type} {prims : Primitives υ}

theorem Context.run_append (contexts : List (Option (Context υ))) (first second : List Operation) :
    Context.run prims contexts (first ++ second) =
      ((Context.run prims contexts first).1 ++ (Context.run prims (Context.run prims contexts first).2 second).1,
        (Context.run prims (Context.run prims contexts first).2 second).2) := by
  induction first generalizing contexts with
  | nil => rfl
  | cons operation rest ih => simp only [List.cons_append, Context.run, ih]

theorem Context.length_run (contexts : List (Option (Context υ))) (operations : List Operation) :
    (Context.run prims contexts operations).1.length = operations.length := by
  induction operations generalizing contexts with
  | nil => rfl
  | cons operation rest ih => exact congrArg (· + 1) (ih _)

-- What is kept of the history of an object: `change` tells what an operation and
-- its answer make of it, if they leave the object at all.
def history {σ : Type} (change : σ → Operation × Answer υ → Option σ) (start : σ)
    (trace : List (Operation × Answer υ)) : Option σ := trace.foldlM change start

-- A relation of the contexts and the history, which each step keeps, holds after
-- a run.
theorem history_run {σ : Type} {change : σ → Operation × Answer υ → Option σ}
    {rel : List (Option (Context υ)) → σ → Prop}
    (hstep : ∀ contexts operation state next, rel contexts state →
      change state (operation, (Context.step prims contexts operation).1) = some next →
      rel (Context.step prims contexts operation).2 next)
    {contexts : List (Option (Context υ))} {operations : List Operation} {start reached : σ}
    (hrel : rel contexts start)
    (hhistory : history change start (operations.zip (Context.run prims contexts operations).1) = some reached) :
    rel (Context.run prims contexts operations).2 reached := by
  induction operations generalizing contexts start with
  | nil =>
      obtain rfl := Option.some.inj hhistory
      exact hrel
  | cons operation rest ih =>
      obtain ⟨next, hnext, hrest⟩ := Option.bind_eq_some_iff.mp hhistory
      exact ih (hstep contexts operation start next hrel hnext) hrest

theorem run_defined (prims : Primitives υ) (operations : List Operation) (heap : Heap Block) : ∃ objects after,
    Object.run prims [] operations heap = some (((Context.run prims [] operations).1, objects), after) := by
  obtain ⟨⟨_, objects⟩, after, _, hdefined, ⟨rfl, _⟩, _⟩ :=
    @run_triple υ prims heap.grants 0 [] [] .Nil operations heap.blocks heap rfl (Holds.nothing heap)
  exact ⟨objects, after, hdefined⟩

theorem run_answers {operations : List Operation} {answers : List (Answer υ)} {objects : List (Option (Object υ))}
    {heap after : Heap Block} (hrun : Object.run prims [] operations heap = some ((answers, objects), after)) :
    answers = (Context.run prims [] operations).1 := by
  obtain ⟨_, _, hdefined⟩ := run_defined prims operations heap
  rw [hrun] at hdefined
  obtain ⟨hpair, _⟩ := Prod.mk.inj (Option.some.inj hdefined)
  exact (Prod.mk.inj hpair).1

-- A run of the objects in three parts, by its answers.
theorem run_parts {earlier later : List Operation} {first last : Operation} {before during : List (Answer υ)}
    {started finished : Answer υ} {objects : List (Option (Object υ))} {heap after : Heap Block}
    (hrun : Object.run prims [] (earlier ++ first :: (later ++ [last])) heap =
      some ((before ++ started :: (during ++ [finished]), objects), after))
    (hbefore : before.length = earlier.length) (hduring : during.length = later.length) :
    ∃ contexts, Context.run prims [] earlier = (before, contexts) ∧
      (Context.step prims contexts first).1 = started ∧
      (Context.run prims (Context.step prims contexts first).2 later).1 = during ∧
      (Context.step prims (Context.run prims (Context.step prims contexts first).2 later).2 last).1 = finished := by
  have hanswers := run_answers hrun
  rw [Context.run_append] at hanswers
  obtain ⟨hfirst, hrest⟩ := List.append_inj hanswers (by rw [hbefore, Context.length_run])
  simp only [Context.run, Context.run_append] at hrest
  obtain ⟨hstarted, htail⟩ := List.cons.inj hrest
  obtain ⟨hlater, hlast⟩ := List.append_inj htail (by rw [hduring, Context.length_run])
  exact ⟨_, Prod.ext hfirst.symm rfl, hstarted.symm, hlater.symm, (List.cons.inj hlast).1.symm⟩

end Traces

section Untouched

variable {υ : Type} {prims : Primitives υ} {contexts : List (Option (Context υ))} {index : Nat}

-- The objects that an operation is about.
def Operation.touches : Operation → List Nat
  | .Declare _ => []
  | .ConstructDigest _ => []
  | .ConstructHmac _ _ => []
  | .Digest index _ => [index]
  | .Hmac index _ => [index]
  | .Cipher index _ => [index]
  | .Aead index _ => [index]
  | .Move source => [source]
  | .Assign target source => [target, source]
  | .Destroy index => [index]

theorem getElem?_append_some {slot : Option (Context υ)} (hslot : contexts[index]? = some slot)
    (more : List (Option (Context υ))) : (contexts ++ more)[index]? = some slot := by
  obtain ⟨hlt, _⟩ := List.getElem?_eq_some_iff.mp hslot
  rw [List.getElem?_append_left hlt, hslot]

theorem step_untouched {operation : Operation} {slot : Option (Context υ)} (hslot : contexts[index]? = some slot)
    (huntouched : index ∉ operation.touches) : (Context.step prims contexts operation).2[index]? = some slot := by
  cases operation with
  | Declare kind => exact getElem?_append_some hslot _
  | ConstructDigest algorithm => exact getElem?_append_some hslot _
  | ConstructHmac algorithm key => exact getElem?_append_some hslot _
  | Digest other call =>
      have hne : other ≠ index := by simpa [Operation.touches, eq_comm] using huntouched
      simp only [Context.step]
      split
      · rwa [List.getElem?_set_ne hne]
      · exact hslot
  | Hmac other call =>
      have hne : other ≠ index := by simpa [Operation.touches, eq_comm] using huntouched
      simp only [Context.step]
      split
      · rwa [List.getElem?_set_ne hne]
      · exact hslot
  | Cipher other call =>
      have hne : other ≠ index := by simpa [Operation.touches, eq_comm] using huntouched
      simp only [Context.step]
      split
      · rwa [List.getElem?_set_ne hne]
      · exact hslot
  | Aead other call =>
      have hne : other ≠ index := by simpa [Operation.touches, eq_comm] using huntouched
      simp only [Context.step]
      split
      · rwa [List.getElem?_set_ne hne]
      · exact hslot
  | Move source =>
      have hne : source ≠ index := by simpa [Operation.touches, eq_comm] using huntouched
      simp only [Context.step]
      split
      · exact getElem?_append_some (by rwa [List.getElem?_set_ne hne]) _
      · exact hslot
  | Assign target source =>
      simp only [Operation.touches, List.mem_cons, List.not_mem_nil, or_false, not_or] at huntouched
      obtain ⟨htarget, hsource⟩ := huntouched
      simp only [Context.step]
      split
      · split
        · rwa [List.getElem?_set_ne (Ne.symm htarget)]
        · rwa [List.getElem?_set_ne (Ne.symm htarget), List.getElem?_set_ne (Ne.symm hsource)]
      · exact hslot
  | Destroy other =>
      have hne : other ≠ index := by simpa [Operation.touches, eq_comm] using huntouched
      exact (List.getElem?_set_ne hne).trans hslot

-- The operations that do something to an object.
def Operation.concerns (index : Nat) : Context υ → Operation → Prop
  | .Digest _, .Digest other _ => other = index
  | .Hmac _, .Hmac other _ => other = index
  | .Cipher _, .Cipher other _ => other = index
  | .Aead _, .Aead other _ => other = index
  | .Aead _, .Move source => source = index
  | .Aead _, .Assign target source => target = index ∨ source = index
  | _, .Destroy other => other = index
  | _, _ => False

theorem join_eq {context : Context υ} (hslot : contexts[index]? = some (some context)) :
    contexts[index]?.join = some context := by
  rw [hslot]
  rfl

theorem step_unconcerned {context : Context υ} {operation : Operation}
    (hslot : contexts[index]? = some (some context))
    (hother : ¬operation.concerns index context) :
    (Context.step prims contexts operation).2[index]? = some (some context) := by
  by_cases htouched : index ∈ operation.touches
  · have hjoin := join_eq hslot
    cases operation with
    | Declare kind => cases htouched
    | ConstructDigest algorithm => cases htouched
    | ConstructHmac algorithm key => cases htouched
    | Digest other call =>
        obtain rfl : index = other := by simpa [Operation.touches] using htouched
        simp only [Context.step, hjoin]
        cases context <;> first | exact hslot | exact absurd rfl hother
    | Hmac other call =>
        obtain rfl : index = other := by simpa [Operation.touches] using htouched
        simp only [Context.step, hjoin]
        cases context <;> first | exact hslot | exact absurd rfl hother
    | Cipher other call =>
        obtain rfl : index = other := by simpa [Operation.touches] using htouched
        simp only [Context.step, hjoin]
        cases context <;> first | exact hslot | exact absurd rfl hother
    | Aead other call =>
        obtain rfl : index = other := by simpa [Operation.touches] using htouched
        simp only [Context.step, hjoin]
        cases context <;> first | exact hslot | exact absurd rfl hother
    | Move source =>
        obtain rfl : index = source := by simpa [Operation.touches] using htouched
        simp only [Context.step, hjoin]
        cases context <;> first | exact hslot | exact absurd rfl hother
    | Assign target source =>
        simp only [Context.step]
        split
        · rename_i htarget hsource
          cases context with
          | Aead aead =>
              have heither : target = index ∨ source = index := by
                simpa [Operation.touches, eq_comm] using htouched
              exact absurd heither hother
          | _ =>
              rcases List.mem_cons.mp htouched with rfl | hmem
              · rw [hjoin] at htarget
                cases htarget
              · obtain rfl := List.mem_singleton.mp hmem
                rw [hjoin] at hsource
                cases hsource
        · exact hslot
    | Destroy other =>
        obtain rfl : index = other := by simpa [Operation.touches] using htouched
        cases context <;> exact absurd rfl hother
  · exact step_untouched hslot htouched

end Untouched

section Digest

variable {υ : Type} {prims : Primitives υ} {contexts : List (Option (Context υ))} {index : Nat}

-- What the digest context at `index` has been fed since its init, as long as it
-- is the same one.
def digestInputs (index : Nat) (data : Bytes) : Operation × Answer υ → Option Bytes
  | (.Digest other (.Init _), _) => if other = index then none else some data
  | (.Digest other (.Update input), _) => some (if other = index then data ++ input else data)
  | (.Destroy other, _) => if other = index then none else some data
  | _ => some data

theorem digestInputs_step {algorithm : UInt32} {operation : Operation} {answer : Answer υ} {data next : Bytes}
    (hslot : contexts[index]? = some (some (.Digest ⟨some ⟨algorithm, data⟩⟩)))
    (hnext : digestInputs index data (operation, answer) = some next) :
    (Context.step prims contexts operation).2[index]? = some (some (.Digest ⟨some ⟨algorithm, next⟩⟩)) := by
  have hjoin := join_eq hslot
  obtain ⟨hlt, _⟩ := List.getElem?_eq_some_iff.mp hslot
  by_cases hconcerns : operation.concerns index (@Context.Digest υ ⟨some ⟨algorithm, data⟩⟩)
  · cases operation with
    | Digest other call =>
        obtain rfl : other = index := hconcerns
        simp only [Context.step, hjoin, List.getElem?_set_self hlt]
        cases call with
        | Init _ => simp [digestInputs] at hnext
        | Update input =>
            obtain rfl : data ++ input = next := by simpa [digestInputs] using hnext
            rfl
        | Final _ =>
            obtain rfl := Option.some.inj hnext
            rfl
        | Size =>
            obtain rfl := Option.some.inj hnext
            rfl
    | Destroy other =>
        obtain rfl : other = index := hconcerns
        simp [digestInputs] at hnext
    | _ => exact hconcerns.elim
  · obtain rfl : data = next := by
      cases operation with
      | Digest other call =>
          have hne : other ≠ index := hconcerns
          cases call <;> simpa [digestInputs, hne] using hnext
      | Destroy other =>
          have hne : other ≠ index := hconcerns
          simpa [digestInputs, hne] using hnext
      | _ => exact Option.some.inj hnext
    exact step_unconcerned hslot hconcerns

theorem lt_of_join {context : Context υ} (hjoin : contexts[index]?.join = some context) :
    index < contexts.length := by
  by_contra hle
  rw [List.getElem?_eq_none (by omega)] at hjoin
  cases hjoin

theorem digestInit_done {algorithm : UInt32}
    (hdone : (Context.step prims contexts (.Digest index (.Init algorithm))).1 = .Done) :
    ∃ size, digestSizeFor algorithm = .ok size ∧
      (Context.step prims contexts (.Digest index (.Init algorithm))).2[index]? =
        some (some (.Digest ⟨some ⟨algorithm, []⟩⟩)) := by
  simp only [Context.step] at hdone ⊢
  split at hdone
  · rename_i context hjoin
    cases hsize : digestSizeFor algorithm with
    | error message =>
        have hinit : DigestContext.init algorithm = .error "Rust digest initialization failed" := by
          rw [DigestContext.init, digestNew, hsize]
          rfl
        simp only [DigestContext.perform, hinit] at hdone
        cases hdone
    | ok size =>
        refine ⟨size, rfl, ?_⟩
        simp only [DigestContext.perform, DigestContext.init_eq hsize]
        exact List.getElem?_set_self (lt_of_join hjoin)
  · cases hdone

theorem constructDigest_created {algorithm : UInt32}
    (hcreated : (Context.step prims contexts (.ConstructDigest algorithm)).1 = .Created index) :
    ∃ size, digestSizeFor algorithm = .ok size ∧
      (Context.step prims contexts (.ConstructDigest algorithm)).2[index]? =
        some (some (.Digest ⟨some ⟨algorithm, []⟩⟩)) := by
  simp only [Context.step] at hcreated ⊢
  cases hsize : digestSizeFor algorithm with
  | error message =>
      have hinit : DigestContext.init algorithm = .error "Rust digest initialization failed" := by
        rw [DigestContext.init, digestNew, hsize]
        rfl
      simp only [DigestContext.perform, hinit] at hcreated
      cases hcreated
  | ok size =>
      simp only [DigestContext.perform, DigestContext.init_eq hsize] at hcreated ⊢
      have hindex : contexts.length = index := Answer.Created.inj hcreated
      rw [← hindex]
      exact ⟨size, rfl, List.getElem?_concat_length⟩

-- From here on the digest context at `index` has an algorithm, and nothing has been fed.
inductive DigestStarts (index : Nat) (algorithm : UInt32) : Operation → Answer υ → Prop
  | Init : DigestStarts index algorithm (.Digest index (.Init algorithm)) .Done
  | Construct : DigestStarts index algorithm (.ConstructDigest algorithm) (.Created index)

theorem DigestStarts.slot {algorithm : UInt32} {first : Operation} {started : Answer υ}
    (hstarts : DigestStarts index algorithm first started)
    (hstarted : (Context.step prims contexts first).1 = started) :
    ∃ size, digestSizeFor algorithm = .ok size ∧
      (Context.step prims contexts first).2[index]? = some (some (.Digest ⟨some ⟨algorithm, []⟩⟩)) := by
  cases hstarts with
  | Init => exact digestInit_done hstarted
  | Construct => exact constructDigest_created hstarted

theorem digest_final {earlier later : List Operation} {first : Operation} {algorithm : UInt32}
    {output data : Bytes} {before during : List (Answer υ)} {started finished : Answer υ}
    {objects : List (Option (Object υ))} {heap after : Heap Block}
    (hrun : Object.run prims [] (earlier ++ first :: (later ++ [.Digest index (.Final output)])) heap =
      some ((before ++ started :: (during ++ [finished]), objects), after))
    (hbefore : before.length = earlier.length) (hduring : during.length = later.length)
    (hstarts : DigestStarts index algorithm first started)
    (hinputs : history (digestInputs index) [] (later.zip during) = some data) :
    ∃ size, digestSizeFor algorithm = .ok size ∧
      finished = .Written size (prims.digests.digest algorithm data ++ output.drop size) := by
  obtain ⟨contexts, _, hstarted, rfl, hfinished⟩ := run_parts hrun hbefore hduring
  obtain ⟨size, hsize, hslot⟩ := hstarts.slot hstarted
  have hreached := @history_run υ prims Bytes (digestInputs index) (fun contexts data =>
    contexts[index]? = some (some (.Digest ⟨some ⟨algorithm, data⟩⟩))) (fun _ _ _ _ => digestInputs_step)
    _ _ _ _ hslot hinputs
  refine ⟨size, hsize, ?_⟩
  rw [← hfinished]
  generalize (Context.run prims _ later).2 = contexts at hreached ⊢
  simp only [Context.step, join_eq hreached, DigestContext.perform, DigestContext.final_eq hsize]
  rfl

end Digest

section Hmac

variable {υ : Type} {prims : Primitives υ} {contexts : List (Option (Context υ))} {index : Nat}

-- A reset forgets what has been fed, and the key stays.
def hmacInputs (index : Nat) (data : Bytes) : Operation × Answer υ → Option Bytes
  | (.Hmac other (.Init _ _), _) => if other = index then none else some data
  | (.Hmac other .Reset, _) => some (if other = index then [] else data)
  | (.Hmac other (.Update input), _) => some (if other = index then data ++ input else data)
  | (.Destroy other, _) => if other = index then none else some data
  | _ => some data

theorem hmacInputs_step {algorithm : UInt32} {key : Bytes} {operation : Operation} {answer : Answer υ}
    {data next : Bytes} (hslot : contexts[index]? = some (some (.Hmac ⟨some ⟨algorithm, key, data⟩⟩)))
    (hnext : hmacInputs index data (operation, answer) = some next) :
    (Context.step prims contexts operation).2[index]? = some (some (.Hmac ⟨some ⟨algorithm, key, next⟩⟩)) := by
  have hjoin := join_eq hslot
  obtain ⟨hlt, _⟩ := List.getElem?_eq_some_iff.mp hslot
  by_cases hconcerns : operation.concerns index (@Context.Hmac υ ⟨some ⟨algorithm, key, data⟩⟩)
  · cases operation with
    | Hmac other call =>
        obtain rfl : other = index := hconcerns
        simp only [Context.step, hjoin, List.getElem?_set_self hlt]
        cases call with
        | Init _ _ => simp [hmacInputs] at hnext
        | Reset =>
            obtain rfl : [] = next := by simpa [hmacInputs] using hnext
            rfl
        | Update input =>
            obtain rfl : data ++ input = next := by simpa [hmacInputs] using hnext
            rfl
        | Final _ =>
            obtain rfl := Option.some.inj hnext
            rfl
        | Size =>
            obtain rfl := Option.some.inj hnext
            rfl
    | Destroy other =>
        obtain rfl : other = index := hconcerns
        simp [hmacInputs] at hnext
    | _ => exact hconcerns.elim
  · obtain rfl : data = next := by
      cases operation with
      | Hmac other call =>
          have hne : other ≠ index := hconcerns
          cases call <;> simpa [hmacInputs, hne] using hnext
      | Destroy other =>
          have hne : other ≠ index := hconcerns
          simpa [hmacInputs, hne] using hnext
      | _ => exact Option.some.inj hnext
    exact step_unconcerned hslot hconcerns

theorem hmacInit_done {algorithm : UInt32} {key : Bytes}
    (hdone : (Context.step prims contexts (.Hmac index (.Init algorithm key))).1 = .Done) :
    ∃ size, digestSizeFor algorithm = .ok size ∧
      (Context.step prims contexts (.Hmac index (.Init algorithm key))).2[index]? =
        some (some (.Hmac ⟨some ⟨algorithm, key, []⟩⟩)) := by
  simp only [Context.step] at hdone ⊢
  split at hdone
  · rename_i context hjoin
    cases hsize : digestSizeFor algorithm with
    | error message =>
        have hinit : HMACContext.init algorithm key = .error "Rust HMAC initialization failed" := by
          rw [HMACContext.init, hmacNew, hsize]
          rfl
        simp only [HMACContext.perform, hinit] at hdone
        cases hdone
    | ok size =>
        refine ⟨size, rfl, ?_⟩
        simp only [HMACContext.perform, HMACContext.init_eq hsize]
        exact List.getElem?_set_self (lt_of_join hjoin)
  · cases hdone

theorem constructHmac_created {algorithm : UInt32} {key : Bytes}
    (hcreated : (Context.step prims contexts (.ConstructHmac algorithm key)).1 = .Created index) :
    ∃ size, digestSizeFor algorithm = .ok size ∧
      (Context.step prims contexts (.ConstructHmac algorithm key)).2[index]? =
        some (some (.Hmac ⟨some ⟨algorithm, key, []⟩⟩)) := by
  simp only [Context.step] at hcreated ⊢
  cases hsize : digestSizeFor algorithm with
  | error message =>
      have hinit : HMACContext.init algorithm key = .error "Rust HMAC initialization failed" := by
        rw [HMACContext.init, hmacNew, hsize]
        rfl
      simp only [HMACContext.perform, hinit] at hcreated
      cases hcreated
  | ok size =>
      simp only [HMACContext.perform, HMACContext.init_eq hsize] at hcreated ⊢
      have hindex : contexts.length = index := Answer.Created.inj hcreated
      rw [← hindex]
      exact ⟨size, rfl, List.getElem?_concat_length⟩

-- From here on the HMAC context at `index` has an algorithm and a key, and nothing has been fed.
inductive HmacStarts (index : Nat) (algorithm : UInt32) (key : Bytes) : Operation → Answer υ → Prop
  | Init : HmacStarts index algorithm key (.Hmac index (.Init algorithm key)) .Done
  | Construct : HmacStarts index algorithm key (.ConstructHmac algorithm key) (.Created index)

theorem HmacStarts.slot {algorithm : UInt32} {key : Bytes} {first : Operation} {started : Answer υ}
    (hstarts : HmacStarts index algorithm key first started)
    (hstarted : (Context.step prims contexts first).1 = started) :
    ∃ size, digestSizeFor algorithm = .ok size ∧
      (Context.step prims contexts first).2[index]? = some (some (.Hmac ⟨some ⟨algorithm, key, []⟩⟩)) := by
  cases hstarts with
  | Init => exact hmacInit_done hstarted
  | Construct => exact constructHmac_created hstarted

theorem hmac_final {earlier later : List Operation} {first : Operation} {algorithm : UInt32}
    {key output data : Bytes} {before during : List (Answer υ)} {started finished : Answer υ}
    {objects : List (Option (Object υ))} {heap after : Heap Block}
    (hrun : Object.run prims [] (earlier ++ first :: (later ++ [.Hmac index (.Final output)])) heap =
      some ((before ++ started :: (during ++ [finished]), objects), after))
    (hbefore : before.length = earlier.length) (hduring : during.length = later.length)
    (hstarts : HmacStarts index algorithm key first started)
    (hinputs : history (hmacInputs index) [] (later.zip during) = some data) :
    ∃ size, digestSizeFor algorithm = .ok size ∧
      finished = .Written size (prims.macs.hmac algorithm key data ++ output.drop size) := by
  obtain ⟨contexts, _, hstarted, rfl, hfinished⟩ := run_parts hrun hbefore hduring
  obtain ⟨size, hsize, hslot⟩ := hstarts.slot hstarted
  have hreached := @history_run υ prims Bytes (hmacInputs index) (fun contexts data =>
    contexts[index]? = some (some (.Hmac ⟨some ⟨algorithm, key, data⟩⟩))) (fun _ _ _ _ => hmacInputs_step)
    _ _ _ _ hslot hinputs
  refine ⟨size, hsize, ?_⟩
  rw [← hfinished]
  generalize (Context.run prims _ later).2 = contexts at hreached ⊢
  simp only [Context.step, join_eq hreached, HMACContext.perform, HMACContext.final_eq hsize]
  rfl

end Hmac

section Finals

-- What a final writes is of the inputs since the init (or the construction), for an
-- HMAC since the last reset, however they were split, and whatever else was done in
-- between: finals on the same context, and anything with the other ones.
theorem finals_of_inputs {υ : Type} {prims : Primitives υ} {earlier later : List Operation} {first : Operation}
    {index : Nat} {algorithm : UInt32} {output data : Bytes} {before during : List (Answer υ)}
    {started finished : Answer υ} {objects : List (Option (Object υ))} {heap after : Heap Block}
    (hbefore : before.length = earlier.length) (hduring : during.length = later.length) :
    (Object.run prims [] (earlier ++ first :: (later ++ [.Digest index (.Final output)])) heap =
        some ((before ++ started :: (during ++ [finished]), objects), after) →
      DigestStarts index algorithm first started →
      history (digestInputs index) [] (later.zip during) = some data →
      ∃ size, digestSizeFor algorithm = .ok size ∧
        finished = .Written size (prims.digests.digest algorithm data ++ output.drop size)) ∧
    ∀ key, Object.run prims [] (earlier ++ first :: (later ++ [.Hmac index (.Final output)])) heap =
        some ((before ++ started :: (during ++ [finished]), objects), after) →
      HmacStarts index algorithm key first started →
      history (hmacInputs index) [] (later.zip during) = some data →
      ∃ size, digestSizeFor algorithm = .ok size ∧
        finished = .Written size (prims.macs.hmac algorithm key data ++ output.drop size) :=
  ⟨fun hrun hstarts hinputs => digest_final hrun hbefore hduring hstarts hinputs,
    fun _ hrun hstarts hinputs => hmac_final hrun hbefore hduring hstarts hinputs⟩

def padded (algorithm : UInt32) (value : Bytes) : Bytes :=
  let size := ffiLength (digestSizeFor algorithm)
  value.take size ++ List.replicate (size - value.length) 0

theorem padded_length {algorithm : UInt32} {size : Nat} (hsize : digestSizeFor algorithm = .ok size)
    (value : Bytes) :
    (padded algorithm value).length = size := by
  simp only [padded, hsize, ffiLength, List.length_append, List.length_take, List.length_replicate]
  omega

-- The digests of "abc" and of nothing are those of MD5, the HMAC is that of
-- "Hi There" under sixteen bytes 11.
def abcDigests : Digests where
  digest algorithm data := padded algorithm
    (if data = [97, 98, 99] then [144, 1, 80, 152, 60, 210, 79, 176, 214, 150, 63, 125, 40, 225, 127, 114]
    else [212, 29, 140, 217, 143, 0, 178, 4, 233, 128, 9, 152, 236, 248, 66, 126])
  length _ _ _ hsize := padded_length hsize _

def thereMacs : Macs where
  hmac algorithm _ _ := padded algorithm
    [146, 148, 114, 122, 54, 56, 187, 28, 19, 244, 142, 248, 21, 139, 252, 157]
  length _ _ _ _ hsize := padded_length hsize _

-- The limit counts the bytes.
def samples : Primitives Nat where
  digests := abcDigests
  macs := thereMacs
  ciphers := zeroCiphers
  algs := sizesTable
  aeads := zeroAeads
  limits := ⟨0, fun _ => 0, (· + ·)⟩

def hiThere : Bytes := [72, 105, 32, 84, 104, 101, 114, 101]

def digestTurns : List Operation :=
  [.Digest 0 (.Update [97]), .Hmac 1 (.Init MD5 (List.replicate 16 11)), .Digest 0 (.Update [98, 99])]

def hmacTurns : List Operation :=
  [.Hmac 1 (.Update [1]), .Digest 0 (.Init MD5), .Hmac 1 .Reset, .Hmac 1 (.Update hiThere)]

def digestRun : List Operation :=
  [.Declare .Digest, .Declare .Hmac] ++ .Digest 0 (.Init MD5) :: (digestTurns ++ [.Digest 0 (.Final (zeros 64))])

def hmacRun : List Operation :=
  [.Declare .Digest] ++ .ConstructHmac MD5 (List.replicate 16 11) ::
    (hmacTurns ++ [.Hmac 1 (.Final (zeros 64))])

-- Two contexts are used in turns: a digest that is initialised, and an HMAC that is constructed and later
-- reset.
theorem finals_of_inputs_interleaved : ∃ digest hmac : Answer Nat,
    (∃ objects after, Object.run samples [] digestRun (Heap.empty fun _ => true) =
      some (([.Created 0, .Created 1] ++ .Done :: ([.Done, .Done, .Done] ++ [digest]), objects), after)) ∧
    (∃ objects after, Object.run samples [] hmacRun (Heap.empty fun _ => true) =
      some (([.Created 0] ++ .Created 1 :: ([.Done, .Done, .Done, .Done] ++ [hmac]), objects), after)) ∧
    (∃ size, digestSizeFor MD5 = .ok size ∧
      digest = .Written size (abcDigests.digest MD5 [97, 98, 99] ++ (zeros 64).drop size)) ∧
    ∃ size, digestSizeFor MD5 = .ok size ∧
      hmac = .Written size (thereMacs.hmac MD5 (List.replicate 16 11) hiThere ++ (zeros 64).drop size) := by
  obtain ⟨objects, after, hrun⟩ := run_defined samples digestRun (Heap.empty fun _ => true)
  obtain ⟨objects', after', hrun'⟩ := run_defined samples hmacRun (Heap.empty fun _ => true)
  have hanswers : (Context.run samples [] digestRun).1 = [.Created 0, .Created 1] ++ .Done ::
      ([.Done, .Done, .Done] ++ [.Written 16 (abcDigests.digest MD5 [97, 98, 99] ++ zeros 48)]) := by decide
  have hanswers' : (Context.run samples [] hmacRun).1 = [.Created 0] ++ .Created 1 ::
      ([.Done, .Done, .Done, .Done] ++
        [.Written 16 (thereMacs.hmac MD5 (List.replicate 16 11) hiThere ++ zeros 48)]) := by decide
  rw [hanswers] at hrun
  rw [hanswers'] at hrun'
  exact ⟨_, _, ⟨objects, after, hrun⟩, ⟨objects', after', hrun'⟩, (finals_of_inputs rfl rfl).1 hrun .Init rfl,
    (finals_of_inputs rfl rfl).2 _ hrun' .Construct rfl⟩

end Finals

end OpenvpnConnect.Crypto
