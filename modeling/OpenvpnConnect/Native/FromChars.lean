import Mathlib.Data.List.TakeWhile

-- std::from_chars for unsigned integers.
namespace OpenvpnConnect.Native

def isDigit (byte : UInt8) : Bool := 48 ≤ byte && byte ≤ 57

def digitValue (byte : UInt8) : Nat := byte.toNat - 48

-- The number that digits stand for, after those that have been read.
def decimalValue (value : Nat) (digits : List UInt8) : Nat :=
  digits.foldl (fun value byte => value * 10 + digitValue byte) value

-- All digits are read, also those after the value has left the range.
def scanDigits (max : Nat) (value : Option Nat) : List UInt8 → Option Nat × List UInt8
  | [] => (value, [])
  | byte :: rest =>
      if isDigit byte then
        let next := value.bind fun value =>
          if value * 10 + digitValue byte ≤ max then some (value * 10 + digitValue byte) else none
        scanDigits max next rest
      else (value, byte :: rest)

inductive Errc
  | Ok
  | InvalidArgument
  | ResultOutOfRange
deriving DecidableEq, Repr

-- Without a number the value stays as it is and the pointer at the start.
def fromChars (max : Nat) (text : List UInt8) (value : Nat) : Nat × List UInt8 × Errc :=
  match scanDigits max (some 0) text with
  | (scanned, rest) =>
      if rest.length = text.length then (value, text, .InvalidArgument)
      else
        match scanned with
        | some number => (number, rest, .Ok)
        | none => (value, rest, .ResultOutOfRange)

theorem le_decimalValue (value : Nat) (digits : List UInt8) : value ≤ decimalValue value digits := by
  induction digits generalizing value with
  | nil => exact Nat.le_refl value
  | cons byte rest ih =>
      have more := ih (value * 10 + digitValue byte)
      have unfolded : decimalValue value (byte :: rest) = decimalValue (value * 10 + digitValue byte) rest := rfl
      omega

theorem scanDigits_none (max : Nat) (text : List UInt8) : (scanDigits max none text).1 = none := by
  induction text with
  | nil => rfl
  | cons byte rest ih =>
      by_cases digit : isDigit byte = true
      · rw [scanDigits, if_pos digit]
        exact ih
      · rw [scanDigits, if_neg digit]

theorem scanDigits_rest (max : Nat) (value : Option Nat) (text : List UInt8) :
    (scanDigits max value text).2 = text.dropWhile isDigit := by
  induction text generalizing value with
  | nil => rfl
  | cons byte rest ih =>
      by_cases digit : isDigit byte = true
      · rw [scanDigits, if_pos digit, List.dropWhile_cons_of_pos digit]
        exact ih _
      · rw [scanDigits, if_neg digit, List.dropWhile_cons_of_neg digit]

-- The range is left at some digit exactly where the whole number is out of it.
theorem scanDigits_value {max value : Nat} (inside : value ≤ max) {text : List UInt8}
    (digits : ∀ byte ∈ text, isDigit byte = true) :
    (scanDigits max (some value) text).1 =
      if decimalValue value text ≤ max then some (decimalValue value text) else none := by
  induction text generalizing value with
  | nil => exact (if_pos inside).symm
  | cons byte rest ih =>
      obtain ⟨digit, later⟩ := List.forall_mem_cons.mp digits
      have unfolded : decimalValue value (byte :: rest) = decimalValue (value * 10 + digitValue byte) rest := rfl
      rw [scanDigits, if_pos digit, unfolded]
      dsimp only [Option.bind_some]
      by_cases next : value * 10 + digitValue byte ≤ max
      · rw [if_pos next]
        exact ih next later
      · have beyond := le_decimalValue (value * 10 + digitValue byte) rest
        rw [if_neg next, scanDigits_none, if_neg (by omega)]

-- The whole text is a number of the range.
def IsNumber (max : Nat) (text : List UInt8) : Prop :=
  text ≠ [] ∧ (∀ byte ∈ text, isDigit byte = true) ∧ decimalValue 0 text ≤ max

theorem fromChars_number {max : Nat} {text : List UInt8} (number : IsNumber max text) (value : Nat) :
    fromChars max text value = (decimalValue 0 text, [], .Ok) := by
  obtain ⟨present, digits, inside⟩ := number
  have scanned := scanDigits_value (Nat.zero_le max) digits
  rw [if_pos inside] at scanned
  have rest := scanDigits_rest max (some 0) text
  rw [List.dropWhile_eq_nil_iff.mpr digits] at rest
  have whole : scanDigits max (some 0) text = (some (decimalValue 0 text), []) := Prod.ext scanned rest
  have length : ([] : List UInt8).length ≠ text.length := by
    have positive := List.length_pos_iff.mpr present
    rw [List.length_nil]
    omega
  rw [fromChars, whole]
  dsimp only
  rw [if_neg length]

theorem fromChars_whole {max : Nat} {text : List UInt8} {value : Nat}
    (ok : (fromChars max text value).2.2 = .Ok) (whole : (fromChars max text value).2.1 = []) :
    IsNumber max text := by
  have rest := scanDigits_rest max (some 0) text
  unfold fromChars at ok whole
  match scan : scanDigits max (some 0) text with
  | (scanned, left) =>
      rw [scan] at ok whole rest
      dsimp only at ok whole rest
      by_cases nothing : left.length = text.length
      · rw [if_pos nothing] at ok
        cases ok
      · rw [if_neg nothing] at ok whole
        cases scanned with
        | none => cases ok
        | some number =>
            have empty : left = [] := whole
            have digits : ∀ byte ∈ text, isDigit byte = true := List.dropWhile_eq_nil_iff.mp (rest.symm.trans empty)
            have value := scanDigits_value (Nat.zero_le max) digits
            refine ⟨?_, digits, ?_⟩
            · rintro rfl
              exact nothing (congrArg List.length empty)
            · by_contra beyond
              rw [if_neg beyond, scan] at value
              cases value

end OpenvpnConnect.Native
