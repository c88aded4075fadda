import Mathlib.Data.List.Basic

-- The part of Rust's str that is used on option values and patches.
namespace Text

-- A str as its characters.
abbrev Str := List Char

-- char::is_whitespace, the Unicode property White_Space.
def isWhitespace (c : Char) : Bool :=
  let code := c.toNat
  decide (9 ≤ code ∧ code ≤ 13) || code == 0x20 || code == 0x85 || code == 0xA0 || code == 0x1680 ||
    decide (0x2000 ≤ code ∧ code ≤ 0x200A) || code == 0x2028 || code == 0x2029 || code == 0x202F ||
    code == 0x205F || code == 0x3000

def trim (value : Str) : Str :=
  ((value.dropWhile isWhitespace).reverse.dropWhile isWhitespace).reverse

def toAsciiUppercase (value : Str) : Str :=
  value.map fun c => if 'a' ≤ c ∧ c ≤ 'z' then c.toUpper else c

def replace (value : Str) (old new : Char) : Str :=
  value.map fun c => if c = old then new else c

-- The pieces of a text up to and including each line feed.
def splitInclusive : Str → List Str
  | [] => []
  | c :: rest =>
      if c = '\n' then [c] :: splitInclusive rest
      else
        match splitInclusive rest with
        | [] => [[c]]
        | first :: more => (c :: first) :: more

-- A line without its terminator, LF or CR LF.
def chomp (line : Str) : Str :=
  match line.reverse with
  | '\n' :: '\r' :: rest => rest.reverse
  | '\n' :: rest => rest.reverse
  | _ => line

def lines (text : Str) : List Str := (splitInclusive text).map chomp

-- Where a match has been replaced its other characters are skipped.
def replaceFrom (old new : Str) : Nat → Str → Str
  | _, [] => []
  | skip + 1, _ :: rest => replaceFrom old new skip rest
  | 0, c :: rest =>
      if old.isPrefixOf (c :: rest) then new ++ replaceFrom old new (old.length - 1) rest
      else c :: replaceFrom old new 0 rest

-- str::replace of a pattern that is not empty.
def replaceAll (value old new : Str) : Str := replaceFrom old new 0 value

def stripPrefix (start text : Str) : Option Str :=
  if start.isPrefixOf text then some (text.drop start.length) else none

-- The pieces between the matches; where a match has been found its other
-- characters are skipped.
def splitFrom (separator : Str) : Nat → Str → List Str
  | _, [] => [[]]
  | skip + 1, _ :: rest => splitFrom separator skip rest
  | 0, c :: rest =>
      if separator.isPrefixOf (c :: rest) then [] :: splitFrom separator (separator.length - 1) rest
      else
        match splitFrom separator 0 rest with
        | [] => [[c]]
        | first :: more => (c :: first) :: more

-- str::split by a text that is not empty.
def split (text separator : Str) : List Str := splitFrom separator 0 text

def splitWhitespace (text : Str) : List Str :=
  (text.splitOnP isWhitespace).filter fun word => !word.isEmpty

def isAsciiAlphanumeric (c : Char) : Bool :=
  decide ('a' ≤ c ∧ c ≤ 'z') || decide ('A' ≤ c ∧ c ≤ 'Z') || decide ('0' ≤ c ∧ c ≤ '9')

-- char::to_digit
def toDigit (c : Char) (radix : Nat) : Option Nat :=
  let value :=
    if '0' ≤ c ∧ c ≤ '9' then some (c.toNat - '0'.toNat)
    else if 'a' ≤ c ∧ c ≤ 'z' then some (c.toNat - 'a'.toNat + 10)
    else if 'A' ≤ c ∧ c ≤ 'Z' then some (c.toNat - 'A'.toNat + 10)
    else none
  value.filter (· < radix)

def readDigits (radix max : Nat) : Nat → Str → Except String Nat
  | value, [] => .ok value
  | value, c :: rest =>
      match toDigit c radix with
      | none => .error "invalid digit found in string"
      | some digit =>
          if value * radix + digit ≤ max then readDigits radix max (value * radix + digit) rest
          else .error "number too large to fit in target type"

-- from_str_radix of an unsigned type with the given maximum.
def fromStrRadix (radix max : Nat) (text : Str) : Except String Nat :=
  match text with
  | [] => .error "cannot parse integer from empty string"
  | ['+'] | ['-'] => .error "invalid digit found in string"
  | '+' :: rest => readDigits radix max 0 rest
  | _ => readDigits radix max 0 text

end Text
