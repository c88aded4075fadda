import OpenvpnConnect.Text

-- Base64 with padding.
namespace Text.Base64

def symbol (value : Nat) : Char :=
  if value < 26 then Char.ofNat ('A'.toNat + value)
  else if value < 52 then Char.ofNat ('a'.toNat + (value - 26))
  else if value < 62 then Char.ofNat ('0'.toNat + (value - 52))
  else if value = 62 then '+' else '/'

def valueOf (c : Char) : Option Nat :=
  if 'A' ≤ c ∧ c ≤ 'Z' then some (c.toNat - 'A'.toNat)
  else if 'a' ≤ c ∧ c ≤ 'z' then some (c.toNat - 'a'.toNat + 26)
  else if '0' ≤ c ∧ c ≤ '9' then some (c.toNat - '0'.toNat + 52)
  else if c = '+' then some 62
  else if c = '/' then some 63
  else none

def encode : List UInt8 → Str
  | [] => []
  | [a] => [symbol (a.toNat / 4), symbol (a.toNat % 4 * 16), '=', '=']
  | [a, b] => [symbol (a.toNat / 4), symbol (a.toNat % 4 * 16 + b.toNat / 16), symbol (b.toNat % 16 * 4), '=']
  | a :: b :: c :: rest =>
      symbol (a.toNat / 4) :: symbol (a.toNat % 4 * 16 + b.toNat / 16) ::
        symbol (b.toNat % 16 * 4 + c.toNat / 64) :: symbol (c.toNat % 64) :: encode rest

def byte (value : Nat) : UInt8 := UInt8.ofNat value

def decode : Str → Option (List UInt8)
  | [] => some []
  | s :: t :: u :: v :: rest => do
      let x ← valueOf s
      let y ← valueOf t
      if u = '=' then
        if v = '=' ∧ rest = [] then return [byte (x * 4 + y / 16)] else none
      else
        let z ← valueOf u
        if v = '=' then
          if rest = [] then return [byte (x * 4 + y / 16), byte (y % 16 * 16 + z / 4)] else none
        else
          let w ← valueOf v
          let more ← decode rest
          return byte (x * 4 + y / 16) :: byte (y % 16 * 16 + z / 4) :: byte (z % 4 * 64 + w) :: more
  | _ => none

theorem valueOf_symbol : ∀ value < 64, valueOf (symbol value) = some value := by
  decide

theorem symbol_ne_equals : ∀ value < 64, symbol value ≠ '=' := by
  decide

theorem byte_eq {value : Nat} {a : UInt8} (he : value = a.toNat) : byte value = a := by
  rw [he]
  exact UInt8.ofNat_toNat

theorem decode_encode (bytes : List UInt8) : decode (encode bytes) = some bytes := by
  induction bytes using encode.induct with
  | case1 => rfl
  | case2 a =>
      have ha : a.toNat < 256 := a.toNat_lt
      have hfirst : byte (a.toNat / 4 * 4 + a.toNat % 4 * 16 / 16) = a := byte_eq (by omega)
      rw [encode, decode, valueOf_symbol _ (by omega), valueOf_symbol _ (by omega)]
      exact congrArg (fun first => some [first]) hfirst
  | case3 a b =>
      have ha : a.toNat < 256 := a.toNat_lt
      have hb : b.toNat < 256 := b.toNat_lt
      have hfirst : byte (a.toNat / 4 * 4 + (a.toNat % 4 * 16 + b.toNat / 16) / 16) = a := byte_eq (by omega)
      have hsecond : byte ((a.toNat % 4 * 16 + b.toNat / 16) % 16 * 16 + b.toNat % 16 * 4 / 4) = b :=
        byte_eq (by omega)
      have hu : symbol (b.toNat % 16 * 4) ≠ '=' := symbol_ne_equals _ (by omega)
      rw [encode, decode, valueOf_symbol _ (by omega), valueOf_symbol _ (by omega), valueOf_symbol _ (by omega)]
      simp only [Option.bind_eq_bind, Option.bind_some, hu, if_false, if_true, hfirst, hsecond]
      rfl
  | case4 a b c rest ih =>
      have ha : a.toNat < 256 := a.toNat_lt
      have hb : b.toNat < 256 := b.toNat_lt
      have hc : c.toNat < 256 := c.toNat_lt
      have hfirst : byte (a.toNat / 4 * 4 + (a.toNat % 4 * 16 + b.toNat / 16) / 16) = a := byte_eq (by omega)
      have hsecond : byte ((a.toNat % 4 * 16 + b.toNat / 16) % 16 * 16 +
          (b.toNat % 16 * 4 + c.toNat / 64) / 4) = b := byte_eq (by omega)
      have hthird : byte ((b.toNat % 16 * 4 + c.toNat / 64) % 4 * 64 + c.toNat % 64) = c := byte_eq (by omega)
      have hu : symbol (b.toNat % 16 * 4 + c.toNat / 64) ≠ '=' := symbol_ne_equals _ (by omega)
      have hv : symbol (c.toNat % 64) ≠ '=' := symbol_ne_equals _ (by omega)
      rw [encode, decode, valueOf_symbol _ (by omega), valueOf_symbol _ (by omega), valueOf_symbol _ (by omega),
        valueOf_symbol _ (by omega), ih]
      simp only [Option.bind_eq_bind, Option.bind_some, hu, hv, if_false, hfirst, hsecond, hthird]
      rfl

-- A property of the symbols and of the padding is one of every text.
theorem forall_encode {plain : Char → Prop} (hsymbol : ∀ value < 64, plain (symbol value)) (hpadding : plain '=')
    (bytes : List UInt8) : ∀ c ∈ encode bytes, plain c := by
  induction bytes using encode.induct with
  | case1 => exact nofun
  | case2 a =>
      have ha : a.toNat < 256 := a.toNat_lt
      simp only [encode, List.forall_mem_cons]
      exact ⟨hsymbol _ (by omega), hsymbol _ (by omega), hpadding, hpadding, nofun⟩
  | case3 a b =>
      have ha : a.toNat < 256 := a.toNat_lt
      have hb : b.toNat < 256 := b.toNat_lt
      simp only [encode, List.forall_mem_cons]
      exact ⟨hsymbol _ (by omega), hsymbol _ (by omega), hsymbol _ (by omega), hpadding, nofun⟩
  | case4 a b c rest ih =>
      have ha : a.toNat < 256 := a.toNat_lt
      have hb : b.toNat < 256 := b.toNat_lt
      have hc : c.toNat < 256 := c.toNat_lt
      simp only [encode, List.forall_mem_cons]
      exact ⟨hsymbol _ (by omega), hsymbol _ (by omega), hsymbol _ (by omega), hsymbol _ (by omega), ih⟩

end Text.Base64
