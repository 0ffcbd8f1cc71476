/-!
# Numbers as bytes

Little-endian encodings of a fixed width, unsigned and signed, and their round trips.
-/

namespace GpuRecorder.Binary

/-- The `width` low bytes of a number, the lowest first. -/
def littleEndian : (width : Nat) → Nat → List UInt8
  | 0, _ => []
  | width + 1, n => UInt8.ofNat (n % 256) :: littleEndian width (n / 256)

/-- The number whose bytes these are. -/
def ofLittleEndian : List UInt8 → Nat
  | [] => 0
  | b :: rest => b.toNat + 256 * ofLittleEndian rest

@[simp] theorem length_littleEndian (width n : Nat) : (littleEndian width n).length = width := by
  induction width generalizing n with
  | zero => rfl
  | succ width ih => simp [littleEndian, ih]

theorem ofLittleEndian_littleEndian (width n : Nat) :
    ofLittleEndian (littleEndian width n) = n % Nat.pow 256 width := by
  induction width generalizing n with
  | zero => simp [littleEndian, ofLittleEndian, Nat.mod_one]
  | succ width ih =>
    have h : (UInt8.ofNat (n % 256)).toNat = n % 256 := by simp
    rw [littleEndian, ofLittleEndian, ih, h, Nat.pow_eq, Nat.pow_eq, Nat.pow_succ', Nat.mod_mul]

/-! ## Signed numbers -/

/-- The unsigned number with the same `width` bytes. -/
def toUnsigned (width : Nat) (i : Int) : Nat := (i % (Nat.pow 256 width : Nat)).toNat

/-- The signed number with the same `width` bytes. -/
def ofUnsigned (width n : Nat) : Int := Int.bmod n (Nat.pow 256 width)

theorem ofUnsigned_toUnsigned {width : Nat} {i : Int} (low : -(Nat.pow 256 width : Nat) ≤ 2 * i)
    (high : 2 * i < (Nat.pow 256 width : Nat)) : ofUnsigned width (toUnsigned width i) = i := by
  have hpos : 0 < (Nat.pow 256 width : Nat) := Nat.pow_pos (by decide)
  have hcast : ((i % (Nat.pow 256 width : Nat)).toNat : Int) = i % (Nat.pow 256 width : Nat) :=
    Int.toNat_of_nonneg (Int.emod_nonneg _ (by omega))
  rw [ofUnsigned, toUnsigned, hcast, Int.emod_bmod]
  apply Int.bmod_eq_of_le <;> omega

end GpuRecorder.Binary
