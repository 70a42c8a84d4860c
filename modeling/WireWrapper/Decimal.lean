/-!
# Decimal numbers

Numbers with a fraction or an exponent are kept as they are written, `mantissa * 10 ^ exponent`.

* `Decimal`             such a number;
* `Decimal.ofParts`     the number that a sign, digits, a fraction and an exponent write;
* `Decimal.fits`        whether rounding it to a binary64 number gives a finite one;
* `Decimal.rounded`     a natural number as binary64 holds it;
* `Decimal.fitsByParts` whether it is finite when its digits and its power of ten are rounded first.
-/

namespace WireWrapper

/-- The number `mantissa * 10 ^ exponent`. -/
structure Decimal where
  mantissa : Int
  exponent : Int
deriving DecidableEq, Repr

namespace Decimal

def ofDigits (digits : List Char) : Nat :=
  digits.foldl (fun n c => 10 * n + (c.toNat - '0'.toNat)) 0

/-- The number with the given sign, whole digits, digits after the point and power of ten. -/
def ofParts (negative : Bool) (whole fraction : List Char) (power : Int) : Decimal :=
  let m : Int := ofDigits (whole ++ fraction)
  ⟨if negative then -m else m, power - fraction.length⟩

/-- The least magnitude that rounds to infinity: half a unit above the largest binary64 number. -/
def overflowAt : Nat := Nat.pow 2 1024 - Nat.pow 2 970

/-- Whether the number is within the range of binary64. -/
def fits (d : Decimal) : Bool :=
  let m := d.mantissa.natAbs
  let size : Int := (Nat.toDigits 10 m).length + d.exponent
  -- the count of digits decides unless the number is near the bound: no huge power is ever raised
  if m = 0 || size ≤ 308 then true
  else if 310 < size then false
  else if 0 ≤ d.exponent then m * Nat.pow 10 d.exponent.toNat < overflowAt
  else m < overflowAt * Nat.pow 10 (-d.exponent).toNat

/-- The leading digits of a number that 64 bits hold, and how many digits follow them. -/
def leading (n : Nat) : Nat × Nat :=
  if n < UInt64.size then (n, 0)
  else
    let (digits, more) := leading (n / 10)
    (digits, more + 1)
termination_by n
decreasing_by
  have : 0 < UInt64.size := by decide
  omega

/-- A number of 64 bits is held as it is. -/
theorem leading_of_lt {n : Nat} (h : n < UInt64.size) : leading n = (n, 0) := by
  rw [leading, if_pos h]

/-- The nearest number with 53 significant bits; of two the one whose last bit is zero. -/
def rounded (n : Nat) : Nat :=
  let unit := Nat.pow 2 (n.log2 + 1 - 53)
  let count := n / unit
  let rest := n % unit
  if 2 * rest < unit || (2 * rest = unit && count % 2 = 0) then count * unit else (count + 1) * unit

/-- Whether the product of the leading digits and a power of ten, both rounded before, is within the
range of binary64.  It differs from `fits` at the bound only. -/
def fitsByParts (d : Decimal) : Bool :=
  let (digits, more) := leading d.mantissa.natAbs
  let exponent := d.exponent + more
  if digits = 0 || exponent ≤ 0 then true
  else if 308 < exponent then false
  else rounded digits * rounded (Nat.pow 10 exponent.toNat) < overflowAt

example : rounded 9007199254740993 = 9007199254740992 := by decide +kernel
example : rounded 9007199254740995 = 9007199254740996 := by decide +kernel
example : fits ⟨1, 308⟩ = true ∧ fits ⟨18, 307⟩ = false ∧ fits ⟨0, 999⟩ = true := by
  decide +kernel

end Decimal
end WireWrapper
