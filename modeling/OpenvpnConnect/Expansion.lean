import Mathlib.Data.List.Basic

-- Output of any length from a hash that is applied again and again, the P_hash of
-- RFC 2246, section 5.
namespace Expansion

variable {β : Type*} (hash : List β → List β) (seed : List β)

-- A(0) is the seed, A(i) the hash of A(i - 1).
def chain : Nat → List β
  | 0 => seed
  | i + 1 => hash (chain i)

def block (i : Nat) : List β := hash (chain hash seed (i + 1) ++ seed)

def blocks (count : Nat) : List β := (List.range count).flatMap (block hash seed)

-- The first bytes of as many blocks as there are bytes, which are never too few.
def expand (length : Nat) : List β := (blocks hash seed length).take length

theorem blocks_succ (count : Nat) :
    blocks hash seed (count + 1) = blocks hash seed count ++ block hash seed count := by
  simp [blocks, List.range_succ]

theorem blocks_prefix (count more : Nat) : blocks hash seed count <+: blocks hash seed (count + more) := by
  induction more with
  | zero => exact List.prefix_refl _
  | succ more ih =>
      rw [← Nat.add_assoc, blocks_succ]
      exact ih.trans (List.prefix_append _ _)

variable {hash seed}

section Size

variable {size : Nat} (hsize : ∀ data, (hash data).length = size)
include hsize

theorem length_blocks (count : Nat) : (blocks hash seed count).length = count * size := by
  induction count with
  | zero => rw [Nat.zero_mul]; rfl
  | succ count ih => rw [blocks_succ, List.length_append, ih, block, hsize, Nat.succ_mul]

-- How many blocks there are does not matter once they are enough.
theorem take_blocks (hpos : 0 < size) {count length : Nat} (henough : length ≤ count * size) :
    (blocks hash seed count).take length = expand hash seed length := by
  have hlength : length ≤ length * size := Nat.le_mul_of_pos_right length hpos
  unfold expand
  rcases Nat.le_total count length with hle | hle
  · obtain ⟨more, rfl⟩ := Nat.exists_eq_add_of_le hle
    obtain ⟨rest, hrest⟩ := blocks_prefix hash seed count more
    rw [← hrest, List.take_append_of_le_length]
    rw [length_blocks hsize]
    exact henough
  · obtain ⟨more, rfl⟩ := Nat.exists_eq_add_of_le hle
    obtain ⟨rest, hrest⟩ := blocks_prefix hash seed length more
    rw [← hrest, List.take_append_of_le_length]
    rw [length_blocks hsize]
    exact hlength

theorem length_expand (hpos : 0 < size) (length : Nat) : (expand hash seed length).length = length := by
  have hlength : length ≤ length * size := Nat.le_mul_of_pos_right length hpos
  rw [expand, List.length_take, length_blocks hsize]
  omega

theorem expand_prefix (hpos : 0 < size) (length more : Nat) :
    expand hash seed length <+: expand hash seed (length + more) := by
  have hlength : length + more ≤ (length + more) * size := Nat.le_mul_of_pos_right _ hpos
  rw [← take_blocks hsize hpos (Nat.le_trans (Nat.le_add_right length more) hlength), expand]
  exact List.take_prefix_take_left (Nat.le_add_right length more)

-- The bytes of the next block, or the first of them.
theorem expand_add (hpos : 0 < size) (count : Nat) {more : Nat} (hmore : more ≤ size) :
    expand hash seed (count * size + more) =
      expand hash seed (count * size) ++ (block hash seed count).take more := by
  have henough : count * size + more ≤ (count + 1) * size := by
    rw [Nat.succ_mul]
    omega
  have hcount : (blocks hash seed count).length = count * size := length_blocks hsize count
  have hwhole : expand hash seed (count * size) = blocks hash seed count := by
    rw [← take_blocks hsize hpos (Nat.le_refl _), List.take_of_length_le (Nat.le_of_eq hcount)]
  rw [← take_blocks hsize hpos henough, hwhole, blocks_succ, ← hcount, List.take_length_add_append]

end Size

end Expansion
