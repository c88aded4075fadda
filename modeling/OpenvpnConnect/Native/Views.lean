import Mathlib.Data.List.Basic

-- Borrowed strings and arrays of the C interface.
namespace OpenvpnConnect.Native

-- A std::string.
abbrev CxxString := ByteArray

-- A pointer to the elements of an array, or null, with their number.
structure View (α : Type) where
  data : Option (List α)
  len : Nat

abbrev StringView := View UInt8

-- The data of a std::string is there also when it is empty.
def viewOf (value : CxxString) : StringView := ⟨some value.data.toList, value.size⟩

-- An empty std::vector is passed as null.
def vectorView {α : Type} (values : List α) : View α :=
  ⟨if values.isEmpty then none else some values, values.length⟩

def rawViewSlice {α : Type} (view : View α) : List α :=
  match view.data with
  | none => []
  | some values => if view.len = 0 then [] else values.take view.len

section Utf8

-- How many bytes follow the first one of a character, and the range of the second.
def sequenceAfter (first : UInt8) : Option (Nat × UInt8 × UInt8) :=
  if first < 0x80 then some (0, 0, 0)
  else if first < 0xC2 then none
  else if first < 0xE0 then some (1, 0x80, 0xBF)
  else if first = 0xE0 then some (2, 0xA0, 0xBF)
  else if first = 0xED then some (2, 0x80, 0x9F)
  else if first < 0xF0 then some (2, 0x80, 0xBF)
  else if first = 0xF0 then some (3, 0x90, 0xBF)
  else if first < 0xF4 then some (3, 0x80, 0xBF)
  else if first = 0xF4 then some (3, 0x80, 0x8F)
  else none

-- The bytes that continue a character, at most `count`.
def continuation (low high : UInt8) : Nat → List UInt8 → List UInt8
  | count + 1, byte :: rest =>
      if low ≤ byte ∧ byte ≤ high then byte :: continuation 0x80 0xBF count rest else []
  | _, _ => []

def codePoint (first : UInt8) (more : List UInt8) : Nat :=
  let bits := match more.length with
    | 0 => first.toNat
    | 1 => first.toNat % 32
    | 2 => first.toNat % 16
    | _ => first.toNat % 8
  more.foldl (fun value byte => value * 64 + byte.toNat % 64) bits

-- What is no character up to where one could go on is replaced as a whole.
def replaceInvalid : Nat → List UInt8 → List Char
  | fuel + 1, first :: rest =>
      match sequenceAfter first with
      | none => '\uFFFD' :: replaceInvalid fuel rest
      | some (count, low, high) =>
          let more := continuation low high count rest
          (if more.length = count then Char.ofNat (codePoint first more) else '\uFFFD') ::
            replaceInvalid fuel (rest.drop more.length)
  | _, _ => []

example : replaceInvalid 6 [104, 0xE2, 0x82, 0xC3, 0xA9, 0xFF] = ['h', '\uFFFD', 'é', '\uFFFD'] := by decide

def fromUtf8Lossy (bytes : ByteArray) : String :=
  match String.fromUTF8? bytes with
  | some text => text
  | none => String.ofList (replaceInvalid bytes.size bytes.toList)

theorem fromUtf8Lossy_valid {value : CxxString} (valid : value.IsValidUTF8) :
    (fromUtf8Lossy value).toByteArray = value := by
  rw [fromUtf8Lossy, String.fromUTF8?, dif_pos valid]
  rfl

theorem fromUtf8Lossy_empty : fromUtf8Lossy ByteArray.empty = "" :=
  String.toByteArray_inj.mp (fromUtf8Lossy_valid ByteArray.isValidUTF8_empty)

end Utf8

def stringFromView (view : StringView) : String :=
  match view.data with
  | none => ""
  | some bytes => if view.len = 0 then "" else fromUtf8Lossy ⟨(bytes.take view.len).toArray⟩

-- The data of a str is there also when it is empty.
def view (value : String) : StringView := ⟨some value.toByteArray.data.toList, value.toByteArray.size⟩

def stringFrom (value : StringView) : CxxString :=
  match value.data with
  | none => ByteArray.empty
  | some bytes => if value.len = 0 then ByteArray.empty else ⟨(bytes.take value.len).toArray⟩

def boolI32 (value : Bool) : Int32 := if value then 1 else 0

theorem rawViewSlice_vectorView {α : Type} (values : List α) : rawViewSlice (vectorView values) = values := by
  cases values with
  | nil => rfl
  | cons value rest => simp [rawViewSlice, vectorView]

theorem take_size (value : CxxString) : value.data.toList.take value.size = value.data.toList :=
  List.take_of_length_le (Nat.le_of_eq Array.length_toList)

theorem stringFromView_viewOf (value : CxxString) : stringFromView (viewOf value) = fromUtf8Lossy value := by
  rw [stringFromView, viewOf]
  dsimp only
  by_cases empty : value.size = 0
  · rw [if_pos empty, ByteArray.size_eq_zero_iff.mp empty, fromUtf8Lossy_empty]
  · rw [if_neg empty, take_size]

theorem stringFrom_viewOf (value : CxxString) : stringFrom (viewOf value) = value := by
  rw [stringFrom, viewOf]
  dsimp only
  by_cases empty : value.size = 0
  · rw [if_pos empty, ByteArray.size_eq_zero_iff.mp empty]
  · rw [if_neg empty, take_size]

theorem stringFrom_view (value : String) : stringFrom (view value) = value.toByteArray :=
  stringFrom_viewOf value.toByteArray

theorem boolI32_ne_zero (value : Bool) : (boolI32 value != 0) = value := by
  cases value with
  | false => rfl
  | true => rfl

end OpenvpnConnect.Native
