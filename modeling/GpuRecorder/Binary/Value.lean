import GpuRecorder.Binary.Format

/-!
# Exact arithmetic on values

Sums, products and comparisons of floating values before any rounding.  A sum or a product of two
finite values is again `significand * 2 ^ exponent`, so it is kept exactly and the format rounds
it once.
-/

namespace GpuRecorder.Binary.Value

/-! ## 1. Parts of a value -/

def isNaN : Value → Bool
  | .nan => true
  | _ => false

def isInfinite : Value → Bool
  | .infinite _ => true
  | _ => false

def isNegative : Value → Bool
  | .nan => false
  | .infinite negative | .finite negative _ _ => negative

def abs : Value → Value
  | .nan => .nan
  | .infinite _ => .infinite false
  | .finite _ significand exponent => .finite false significand exponent

def neg : Value → Value
  | .nan => .nan
  | .infinite negative => .infinite (!negative)
  | .finite negative significand exponent => .finite (!negative) significand exponent

/-- The signed significand of a finite value, moved down to a lower exponent. -/
def signedAt (negative : Bool) (significand : Nat) (exponent lower : Int) : Int :=
  let magnitude : Int := significand * Nat.pow 2 (exponent - lower).toNat
  if negative then -magnitude else magnitude

/-! ## 2. Arithmetic -/

/-- The exact sum.  A vanishing sum is negative only when both terms are. -/
def add : Value → Value → Value
  | .finite n₁ m₁ e₁, .finite n₂ m₂ e₂ =>
    let lower := min e₁ e₂
    let sum := signedAt n₁ m₁ e₁ lower + signedAt n₂ m₂ e₂ lower
    .finite (if sum = 0 then n₁ && n₂ else decide (sum < 0)) sum.natAbs lower
  | .infinite n₁, .infinite n₂ => if n₁ = n₂ then .infinite n₁ else .nan
  | .infinite n, .finite .. | .finite .., .infinite n => .infinite n
  | .nan, _ | _, .nan => .nan

/-- The exact product; nothing times infinity is not a number. -/
def mul : Value → Value → Value
  | .finite n₁ m₁ e₁, .finite n₂ m₂ e₂ => .finite (n₁ != n₂) (m₁ * m₂) (e₁ + e₂)
  | .infinite n₁, .infinite n₂ => .infinite (n₁ != n₂)
  | .infinite n₁, .finite n₂ m _ | .finite n₁ m _, .infinite n₂ =>
    if m = 0 then .nan else .infinite (n₁ != n₂)
  | .nan, _ | _, .nan => .nan

/-! ## 3. Comparison -/

/-- How two values compare; nothing compares with a not-a-number. -/
def compare? : Value → Value → Option Ordering
  | .finite n₁ m₁ e₁, .finite n₂ m₂ e₂ =>
    let lower := min e₁ e₂
    some (compare (signedAt n₁ m₁ e₁ lower) (signedAt n₂ m₂ e₂ lower))
  | .infinite n₁, .infinite n₂ =>
    some (if n₁ = n₂ then .eq else if n₁ then .lt else .gt)
  | .infinite n, .finite .. => some (if n then .lt else .gt)
  | .finite .., .infinite n => some (if n then .gt else .lt)
  | .nan, _ | _, .nan => none

def eq (a b : Value) : Bool := compare? a b == some .eq

def lt (a b : Value) : Bool := compare? a b == some .lt

def le (a b : Value) : Bool := a.lt b || a.eq b

@[simp] theorem compare?_nan_left (a : Value) : compare? .nan a = none := by
  cases a <;> rfl

@[simp] theorem compare?_nan_right (a : Value) : compare? a .nan = none := by
  cases a <;> rfl

theorem compare?_self {a : Value} (ha : a ≠ .nan) : compare? a a = some .eq := by
  cases a with
  | nan => exact absurd rfl ha
  | infinite n => simp [compare?]
  | finite n m e => simp [compare?, compare, compareOfLessAndEq]

end GpuRecorder.Binary.Value
