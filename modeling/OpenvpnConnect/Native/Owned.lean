import OpenvpnConnect.Memory.Rationed
import OpenvpnConnect.Native.Views

-- What the bridge allocates for the client, and the client gives back.
namespace OpenvpnConnect.Native

open Memory

-- ovpn_owned_string
structure OwnedString where
  data : Option Nat
  len : Nat
deriving DecidableEq, Repr

def OwnedString.null : OwnedString := ⟨none, 0⟩

-- ovpn_server_entry
structure OvpnServerEntry where
  (server friendlyName : OwnedString)
deriving DecidableEq, Repr

inductive Block
  | Bytes (bytes : List UInt8)
  | Strings (entries : List OwnedString)
  | Servers (entries : List OvpnServerEntry)
  | Numbers (values : List Int64)
  | Client

-- A call of the bridge or of the client, over the blocks that pass between them.
abbrev Ffi := Program Block

def own (value : CxxString) : Ffi OwnedString := do
  if value.size = 0 then
    return .null
  match ← malloc (.Bytes (List.replicate value.size 0)) with
  | none => return .null
  | some data =>
      store data (.Bytes value.data.toList)
      return ⟨some data, value.size⟩

def ovpnOwnedStringFree (value : OwnedString) : Ffi Unit := free value.data

-- A slice of the elements of a block; the block has to be one of theirs and as long.
def elements {α : Type} (unpack : Block → Option (List α)) (data len : Nat) : Ffi (List α) := do
  match unpack (← load data) with
  | none => failure
  | some values => if len ≤ values.length then return values.take len else failure

def Block.bytes : Block → Option (List UInt8)
  | .Bytes bytes => some bytes
  | _ => none

def Block.strings : Block → Option (List OwnedString)
  | .Strings entries => some entries
  | _ => none

def Block.servers : Block → Option (List OvpnServerEntry)
  | .Servers entries => some entries
  | _ => none

def Block.numbers : Block → Option (List Int64)
  | .Numbers values => some values
  | _ => none

def stringFromOwned (value : OwnedString) : Ffi String :=
  match value.data with
  | none => pure ""
  | some data =>
      if value.len = 0 then pure ""
      else do
        let bytes ← elements Block.bytes data value.len
        return fromUtf8Lossy ⟨bytes.toArray⟩

def takeOwned (value : OwnedString) : Ffi String := do
  let result ← stringFromOwned value
  ovpnOwnedStringFree value
  return result

section Strings

-- The text the client has of a string of Core; there is none where malloc had no room for this one.
def delivered (value : CxxString) : Rationed String := do
  if value.size = 0 then
    return ""
  if ← room then return fromUtf8Lossy value else return ""

-- A record's string that will be read as the text, and the block behind it.
inductive Owns : String → OwnedString → Cells Block → Prop
  | Null : Owns "" .null 0
  | Block {value : CxxString} {place : Nat} : value.size ≠ 0 →
      Owns (fromUtf8Lossy value) ⟨some place, value.size⟩ {(place, .Bytes value.data.toList)}

theorem own_follows (value : CxxString) : Follows (delivered value) 0 (own value) Owns := by
  unfold delivered own
  by_cases hempty : value.size = 0
  · rw [if_pos hempty, if_pos hempty]
    exact Follows.pure .Null
  · rw [if_neg hempty, if_neg hempty]
    apply (malloc_follows _).bind
    rintro _ _ _ (⟨rfl, rfl, rfl⟩ | ⟨place, rfl, rfl, rfl⟩)
    · exact Follows.pure .Null
    · apply Follows.after_triple fun _ => store_triple place _ _
      rintro _ _ rfl
      exact Follows.pure (.Block hempty)

variable {grants : Nat → Bool} {text : String} {owned : OwnedString} {cells : Cells Block}

theorem elements_triple {α : Type} {unpack : Block → Option (List α)} (block : Block) {values : List α}
    (hblock : unpack block = some values) (place : Nat) :
    Triple grants {(place, block)} (elements unpack place values.length) fun read cells =>
      read = values ∧ cells = {(place, block)} := by
  apply Triple.bind (load_triple place block)
  rintro _ _ ⟨rfl, rfl⟩
  rw [hblock]
  dsimp only
  rw [if_pos (Nat.le_refl _), List.take_of_length_le (Nat.le_refl _)]
  exact Triple.pure _ ⟨rfl, rfl⟩

theorem stringFromOwned_triple (howns : Owns text owned cells) :
    Triple grants cells (stringFromOwned owned) fun read after => read = text ∧ after = cells := by
  cases howns with
  | Null => exact Triple.pure "" ⟨rfl, rfl⟩
  | @Block value place hsome =>
      unfold stringFromOwned
      dsimp only
      rw [if_neg hsome]
      have hlength : value.size = value.data.toList.length := Array.length_toList.symm
      rw [hlength]
      apply Triple.bind (elements_triple (.Bytes value.data.toList) rfl place)
      rintro _ _ ⟨rfl, rfl⟩
      exact Triple.pure _ ⟨rfl, rfl⟩

theorem ovpnOwnedStringFree_triple (howns : Owns text owned cells) :
    Triple grants cells (ovpnOwnedStringFree owned) fun _ after => after = 0 := by
  cases howns with
  | Null => exact free_null_triple
  | @Block _ place _ => exact free_triple place _

end Strings

section Fields

-- The strings of a record, one after another.
variable {grants : Nat → Bool} {γ δ : Type} {texts : List String} {others : List OwnedString}

abbrev OwnsAll : List String → List OwnedString → Cells Block → Prop := Each Owns

theorem OwnsAll.own {cells : Cells Block} (howns : OwnsAll texts others cells) (value : CxxString)
    {ideal : String → Rationed δ} {next : OwnedString → Ffi γ} {post : δ → γ → Cells Block → Prop}
    (hnext : ∀ text owned cells, OwnsAll (texts ++ [text]) (others ++ [owned]) cells →
      Follows (ideal text) cells (next owned) post) :
    Follows (delivered value >>= ideal) cells (own value >>= next) post := by
  apply (own_follows value).step (zero_add cells).symm
  intro text owned block hblock
  rw [add_comm]
  exact hnext text owned _ (howns.snoc hblock)

theorem OwnsAll.freeAll {cells : Cells Block} (howns : OwnsAll texts others cells) :
    Triple grants cells (others.forM ovpnOwnedStringFree) fun _ after => after = 0 :=
  Each.release (fun _ _ _ hown => ovpnOwnedStringFree_triple hown) howns

theorem OwnsAll.freePair {first second : OwnedString} {cells : Cells Block}
    (howns : OwnsAll texts [first, second] cells) :
    Triple grants cells (do ovpnOwnedStringFree first; ovpnOwnedStringFree second) fun _ after => after = 0 := by
  have hfree : Triple grants cells ([first, second].forM ovpnOwnedStringFree) fun _ after => after = 0 :=
    howns.freeAll
  simp only [List.forM, bind_pure_unit] at hfree
  exact hfree

-- The strings that are still to be read, in cells that stay.
structure Readable (texts : List String) (others : List OwnedString) (whole : Cells Block) : Prop where
  owned : ∃ cells rest, OwnsAll texts others cells ∧ whole = cells + rest

theorem OwnsAll.readable {cells : Cells Block} (howns : OwnsAll texts others cells) (rest : Cells Block) :
    Readable texts others (cells + rest) := ⟨cells, rest, howns, rfl⟩

theorem OwnsAll.readable_alone {cells : Cells Block} (howns : OwnsAll texts others cells) :
    Readable texts others cells := ⟨cells, 0, howns, (add_zero cells).symm⟩

theorem Readable.read {text : String} {owned : OwnedString} {whole : Cells Block} {next : String → Ffi γ}
    {post : γ → Cells Block → Prop} (hreadable : Readable (text :: texts) (owned :: others) whole)
    (hnext : Readable texts others whole → Triple grants whole (next text) post) :
    Triple grants whole (stringFromOwned owned >>= next) post := by
  obtain ⟨cells, rest, howns, rfl⟩ := hreadable
  cases howns with
  | @Cons _ _ _ _ block more hblock hmore =>
      apply (stringFromOwned_triple hblock).step (add_assoc block more rest)
      rintro _ _ ⟨rfl, rfl⟩
      rw [← add_assoc]
      exact hnext ⟨more, _, hmore, by rw [add_comm _ more, add_assoc]⟩

theorem Readable.skip {text : String} {owned : OwnedString} {whole : Cells Block}
    (hreadable : Readable (text :: texts) (owned :: others) whole) : Readable texts others whole := by
  obtain ⟨cells, rest, howns, rfl⟩ := hreadable
  cases howns with
  | @Cons _ _ _ _ block more hblock hmore => exact ⟨more, block + rest, hmore, by rw [add_comm block, add_assoc]⟩

end Fields

section Optional

variable {grants : Nat → Bool} {τ : Type} {strings : τ → List String} {answer : Option τ} {flag : Int32}
  {others : List OwnedString} {cells : Cells Block}

-- A record that is read only where its flag says so; its strings are given back in either case.
structure OwnsOptional (strings : τ → List String) (answer : Option τ) (flag : Int32)
    (others : List OwnedString) (cells : Cells Block) : Prop where
  flag : flag = boolI32 answer.isSome
  owned : ∃ texts, OwnsAll texts others cells ∧ ∀ value, answer = some value → strings value = texts

theorem OwnsAll.optional (value : τ) (defined : Bool) (howns : OwnsAll (strings value) others cells) :
    OwnsOptional strings (if defined then some value else none) (boolI32 defined) others cells := by
  refine ⟨?_, strings value, howns, ?_⟩
  · cases defined <;> rfl
  · intro other hother
    by_cases hdefined : defined = true
    · rw [if_pos hdefined] at hother
      rw [Option.some.inj hother]
    · rw [if_neg hdefined] at hother
      cases hother

theorem ownsAll_nulls (count : Nat) : OwnsAll (List.replicate count "") (List.replicate count .null) 0 := by
  induction count with
  | zero => exact .Nil
  | succ count ih => exact .Cons Owns.Null ih

theorem OwnsOptional.absent (count : Nat) :
    OwnsOptional strings none 0 (List.replicate count OwnedString.null) 0 := by
  refine ⟨rfl, _, ownsAll_nulls count, ?_⟩
  intro _ hnone
  cases hnone

theorem OwnsOptional.read (howns : OwnsOptional strings answer flag others cells) {body : Ffi (Option τ)}
    (hbody : ∀ value, answer = some value → Readable (strings value) others cells →
      Triple grants cells body fun result after => result = some value ∧ after = cells) :
    Triple grants cells (if flag != 0 then body else return none) fun result after =>
      result = answer ∧ after = cells := by
  obtain ⟨rfl, texts, hstrings, htexts⟩ := howns
  rw [boolI32_ne_zero]
  cases answer with
  | none => exact Triple.pure none ⟨rfl, rfl⟩
  | some value =>
      rw [← htexts value rfl] at hstrings
      exact hbody value rfl hstrings.readable_alone

end Optional

section Arrays

variable {α γ δ : Type}

-- for (size_t i = start; i < ...; ++i)
def forIndex (body : Nat → α → Ffi Unit) : Nat → List α → Ffi Unit
  | _, [] => pure ()
  | i, value :: rest => do
      body i value
      forIndex body (i + 1) rest

-- An assignment to an element of an array, or to a part of it.
def assign (unpack : Block → Option (List γ)) (pack : List γ → Block) (list i : Nat)
    (change : γ → γ) : Ffi Unit := do
  match unpack (← load list) with
  | none => failure
  | some entries => if i < entries.length then store list (pack (entries.modify i change)) else failure

-- A list is copied into an array of its own; null is an empty list and one for which there is no room.
def arrayFrom (pack : List γ → Block) (zero : γ) (body : Nat → Nat → α → Ffi Unit) (values : List α) :
    Ffi (Option Nat × Nat) := do
  if values.isEmpty then
    return (none, 0)
  match ← malloc (pack (List.replicate values.length zero)) with
  | none => return (none, 0)
  | some list =>
      forIndex (body list) 0 values
      return (some list, values.length)

def arrayFree (unpack : Block → Option (List γ)) (release : γ → Ffi Unit) (list : Option Nat)
    (len : Nat) : Ffi Unit :=
  match list with
  | none => pure ()
  | some place => do
      let entries ← elements unpack place len
      entries.forM release
      free (some place)

-- The client's copy.
def arrayRead (unpack : Block → Option (List γ)) (read : γ → Ffi δ) (list : Option Nat) (len : Nat) :
    Ffi (List δ) :=
  match list with
  | none => pure []
  | some place => do
      let entries ← elements unpack place len
      entries.mapM read

variable {grants : Nat → Bool} {pack : List γ → Block} {unpack : Block → Option (List γ)} {zero : γ}
  {rel : δ → γ → Cells Block → Prop}

inductive OwnsArray (pack : List γ → Block) (rel : δ → γ → Cells Block → Prop) :
    List δ → Option Nat → Nat → Cells Block → Prop
  | Null : OwnsArray pack rel [] none 0 0
  | Array {values : List δ} {entries : List γ} {place : Nat} {own : Cells Block} : Each rel values entries own →
      OwnsArray pack rel values (some place) values.length ({(place, pack entries)} + own)

theorem modify_length_append (change : γ → γ) (done more : List γ) (entry : γ) :
    (done ++ entry :: more).modify done.length change = done ++ change entry :: more := by
  induction done with
  | nil => rfl
  | cons first done ih => rw [List.cons_append, List.length_cons, List.modify_succ_cons, ih, List.cons_append]

theorem assign_triple (hunpack : ∀ entries, unpack (pack entries) = some entries) (change : γ → γ) (place : Nat)
    (done more : List γ) (entry : γ) :
    Triple grants {(place, pack (done ++ entry :: more))} (assign unpack pack place done.length change)
      fun _ cells => cells = {(place, pack (done ++ change entry :: more))} := by
  apply Triple.bind (load_triple place _)
  rintro _ _ ⟨rfl, rfl⟩
  rw [hunpack]
  dsimp only
  rw [if_pos (by simp)]
  rw [modify_length_append]
  exact store_triple place _ _

-- A string goes into an element, where the element stands beside what has been filled.
theorem ownInto_follows (hunpack : ∀ entries, unpack (pack entries) = some entries)
    (change : OwnedString → γ → γ) (place : Nat) (done more : List γ) (entry : γ) (value : CxxString) :
    Follows (delivered value) {(place, pack (done ++ entry :: more))}
      (own value >>= fun owned => assign unpack pack place done.length (change owned))
      fun text _ cells => ∃ owned block, Owns text owned block ∧
        cells = {(place, pack (done ++ change owned entry :: more))} + block := by
  rw [← bind_pure (delivered value)]
  apply (own_follows value).step (zero_add _).symm
  intro text owned block hblock
  rw [add_comm]
  have hassign := fun grants => @assign_triple _ grants pack unpack hunpack (change owned) place done more entry
  apply (Follows.of_triple (fun grants => (hassign grants).frame block) text).weaken
  rintro _ _ _ ⟨rfl, _, rfl, rfl⟩
  exact ⟨owned, block, hblock, rfl⟩

-- Before element `i` the first i elements are filled, the others are zero.
theorem forIndex_follows {element : α → Rationed δ} {body : Nat → α → Ffi Unit} {place : Nat}
    (hbody : ∀ done more value, Follows (element value) {(place, pack (done ++ zero :: more))}
      (body done.length value)
      fun answer _ cells => ∃ entry own, rel answer entry own ∧
        cells = {(place, pack (done ++ entry :: more))} + own)
    (done : List γ) (values : List α) :
    Follows (values.mapM element) {(place, pack (done ++ List.replicate values.length zero))}
      (forIndex body done.length values)
      fun answers _ cells => answers.length = values.length ∧ ∃ entries own, Each rel answers entries own ∧
        cells = {(place, pack (done ++ entries))} + own := by
  induction values generalizing done with
  | nil => exact Follows.pure ⟨rfl, [], 0, .Nil, by simp⟩
  | cons value values ih =>
      rw [List.mapM_cons]
      apply (hbody done (List.replicate values.length zero) value).bind
      rintro answer _ _ ⟨entry, own, hentry, rfl⟩
      have hsplit : done ++ entry :: List.replicate values.length zero =
          (done ++ [entry]) ++ List.replicate values.length zero := by simp
      have hlength : done.length + 1 = (done ++ [entry]).length := by simp
      rw [hsplit, hlength]
      apply ((ih (done ++ [entry])).frame own).convert
      rintro answers _ _ ⟨_, ⟨hanswers, entries, rest, heach, rfl⟩, rfl⟩
      refine ⟨congrArg (· + 1) hanswers, entry :: entries, own + rest, .Cons hentry heach, ?_⟩
      rw [add_assoc, add_comm rest own]
      simp

theorem arrayFrom_follows {element : α → Rationed δ} {body : Nat → Nat → α → Ffi Unit}
    (hbody : ∀ place done more value, Follows (element value) {(place, pack (done ++ zero :: more))}
      (body place done.length value)
      fun answer _ cells => ∃ entry own, rel answer entry own ∧
        cells = {(place, pack (done ++ entry :: more))} + own)
    (values : List α) :
    Follows (arrayed element values) 0 (arrayFrom pack zero body values) fun answers result =>
      OwnsArray pack rel answers result.1 result.2 := by
  unfold arrayed arrayFrom
  cases values with
  | nil => exact Follows.pure .Null
  | cons value rest =>
      apply (malloc_follows _).bind
      rintro _ _ _ (⟨rfl, rfl, rfl⟩ | ⟨place, rfl, rfl, rfl⟩)
      · exact Follows.pure .Null
      · dsimp only
        rw [if_pos rfl, ← bind_pure (List.mapM element (value :: rest))]
        apply (forIndex_follows (hbody place) [] (value :: rest)).bind
        rintro answers _ _ ⟨hlength, entries, own, heach, rfl⟩
        rw [← hlength]
        exact Follows.pure (.Array heach)

theorem arrayFree_triple {release : γ → Ffi Unit} (hunpack : ∀ entries, unpack (pack entries) = some entries)
    (hrelease : ∀ value entry cells, rel value entry cells →
      Triple grants cells (release entry) fun _ after => after = 0)
    {values : List δ} {list : Option Nat} {len : Nat} {cells : Cells Block}
    (howns : OwnsArray pack rel values list len cells) :
    Triple grants cells (arrayFree unpack release list len) fun _ after => after = 0 := by
  cases howns with
  | Null => exact Triple.pure () rfl
  | @Array _ entries place own heach =>
      rw [heach.length_eq]
      apply (elements_triple (pack entries) (hunpack entries) place).step rfl
      rintro _ _ ⟨rfl, rfl⟩
      apply (heach.release hrelease).step (add_comm _ own)
      rintro _ _ rfl
      rw [zero_add]
      exact free_triple place _

theorem arrayRead_triple {read : γ → Ffi δ} (hunpack : ∀ entries, unpack (pack entries) = some entries)
    (hread : ∀ value entry cells, rel value entry cells →
      Triple grants cells (read entry) fun result after => result = value ∧ after = cells)
    {values : List δ} {list : Option Nat} {len : Nat} {cells : Cells Block}
    (howns : OwnsArray pack rel values list len cells) :
    Triple grants cells (arrayRead unpack read list len) fun results after =>
      results = values ∧ after = cells := by
  cases howns with
  | Null => exact Triple.pure _ ⟨rfl, rfl⟩
  | @Array _ entries place own heach =>
      rw [heach.length_eq]
      apply (elements_triple (pack entries) (hunpack entries) place).step rfl
      rintro _ _ ⟨hentries, rfl⟩
      rw [hentries]
      have hequal : ∀ value entry cells, rel value entry cells →
          Triple grants cells (read entry) fun result after => value = result ∧ after = cells := by
        intro value entry cells hentry
        exact (hread value entry cells hentry).weaken fun _ _ hresult => ⟨hresult.1.symm, hresult.2⟩
      have hframed := (heach.use hequal).frame {(place, pack entries)}
      rw [add_comm own] at hframed
      apply hframed.weaken
      rintro results _ ⟨_, ⟨hresults, rfl⟩, rfl⟩
      rw [List.forall₂_eq_eq_eq] at hresults
      exact ⟨hresults.symm, add_comm _ _⟩

end Arrays

end OpenvpnConnect.Native
