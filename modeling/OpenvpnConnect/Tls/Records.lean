import OpenvpnConnect.Tls.Connection

namespace OpenvpnConnect.Tls

section Records

-- The records of a stream: application data, a close_notify alert, and anything
-- else, which fails. An incomplete record waits for its rest.
def records : Nat → List UInt8 → List UInt8 × Status
  | fuel + 1, kind :: _ :: _ :: high :: low :: rest =>
      let length := high.toNat * 256 + low.toNat
      if rest.length < length then ([], .Open)
      else if kind = 23 then
        let (more, status) := records fuel (rest.drop length)
        (rest.take length ++ more, status)
      else if kind = 21 ∧ rest.take length = [1, 0] then ([], .Closed)
      else ([], .Failed)
  | _, _ => ([], .Open)

theorem records_append {fuel : Nat} {bytes : List UInt8} (more : List UInt8) {large : Nat}
    (hfuel : bytes.length ≤ fuel) (hlarge : (bytes ++ more).length ≤ large) :
    (records fuel bytes).1 <+: (records large (bytes ++ more)).1 ∧
      ((records fuel bytes).2 ≠ .Open → records large (bytes ++ more) = records fuel bytes) := by
  induction fuel generalizing bytes large with
  | zero =>
      obtain rfl := List.length_eq_zero_iff.mp (Nat.le_zero.mp hfuel)
      exact ⟨List.nil_prefix, fun h => absurd rfl h⟩
  | succ fuel ih =>
      match bytes with
      | [] | [_] | [_, _] | [_, _, _] | [_, _, _, _] => exact ⟨List.nil_prefix, fun h => absurd rfl h⟩
      | kind :: major :: minor :: high :: low :: rest =>
          obtain ⟨large, rfl⟩ : ∃ less, large = less + 1 := ⟨large - 1, by simp at hlarge; omega⟩
          simp only [List.length_cons, List.length_append, List.cons_append] at hfuel hlarge
          simp only [List.cons_append, records]
          by_cases hshort : rest.length < high.toNat * 256 + low.toNat
          · rw [if_pos hshort]
            exact ⟨List.nil_prefix, fun h => absurd rfl h⟩
          · have hlong : ¬(rest ++ more).length < high.toNat * 256 + low.toNat := by
              rw [List.length_append]
              omega
            have htake : (rest ++ more).take (high.toNat * 256 + low.toNat) =
                rest.take (high.toNat * 256 + low.toNat) := List.take_append_of_le_length (by omega)
            have hdrop : (rest ++ more).drop (high.toNat * 256 + low.toNat) =
                rest.drop (high.toNat * 256 + low.toNat) ++ more := List.drop_append_of_le_length (by omega)
            rw [if_neg hshort, if_neg hlong, htake, hdrop]
            split
            · obtain ⟨hgrown, hsettled⟩ := @ih (rest.drop (high.toNat * 256 + low.toNat)) large
                (by rw [List.length_drop]; omega) (by rw [List.length_append, List.length_drop]; omega)
              refine ⟨(List.prefix_append_right_inj _).mpr hgrown, fun hstatus => ?_⟩
              rw [hsettled hstatus]
            · exact ⟨List.prefix_refl _, fun _ => rfl⟩

-- A connection on records that are not encrypted, which reads 4096 bytes at a time.
def plainRecords : Rustls where
  decrypt bytes := (records bytes.length bytes).1
  status bytes := (records bytes.length bytes).2
  failure _ := "received corrupt message"
  take _ length := min length 4096
  limit := 16384
  start := ⟨rfl, rfl⟩
  grows taken more := (records_append more (Nat.le_refl _) (Nat.le_refl _)).1
  settled taken more hstatus := by
    rw [(records_append more (Nat.le_refl _) (Nat.le_refl _)).2 hstatus]
    exact ⟨rfl, rfl⟩
  take_le _ length := Nat.min_le_left _ _
  take_pos _ length _ hlength := by omega

-- A record with two bytes of application data, and a close_notify.
def greeting : Slice := ⟨[23, 3, 3, 0, 2, 104, 105], by decide⟩

def farewell : Slice := ⟨[21, 3, 3, 0, 2, 1, 0], by decide⟩

def byteBuffer : Capacity := ⟨1, by decide⟩

def smallBuffer : Capacity := ⟨16, by decide⟩

end Records

end OpenvpnConnect.Tls
