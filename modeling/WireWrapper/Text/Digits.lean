/-!
# Hexadecimal numbers

* `hexValue?`        the value of one digit;
* `ofHex?`           a text of one or more digits of either case as a number;
* `charOfHex?`       the character with that code point;
* `hexDigits`, `hex` the digits of a number, in lower case; in upper case and padded with zeros.
-/

namespace WireWrapper
namespace Text

/-- The value of a hexadecimal digit of either case. -/
def hexValue? (c : Char) : Option Nat :=
  if '0' ≤ c ∧ c ≤ '9' then some (c.toNat - '0'.toNat)
  else if 'a' ≤ c ∧ c ≤ 'f' then some (c.toNat - 'a'.toNat + 10)
  else if 'A' ≤ c ∧ c ≤ 'F' then some (c.toNat - 'A'.toNat + 10)
  else none

/-- The digits of a number in base 16 after what was read already. -/
def ofHexAfter? : (value : Nat) → List Char → Option Nat
  | value, [] => some value
  | value, c :: cs => (hexValue? c).bind fun digit => ofHexAfter? (16 * value + digit) cs

/-- The number that one or more hexadecimal digits write. -/
def ofHex? : List Char → Option Nat
  | [] => none
  | c :: cs => ofHexAfter? 0 (c :: cs)

/-- The character whose code point hexadecimal digits write. -/
def charOfHex? (digits : List Char) : Option Char :=
  (ofHex? digits).bind fun n => if n.isValidChar then some (Char.ofNat n) else none

/-- The hexadecimal digits of `n` in lower case, without leading zeros. -/
def hexDigits (n : Nat) : List Char := Nat.toDigits 16 n

/-- The hexadecimal digits of `n` in upper case, with zeros in front up to `width` digits. -/
def hex (width n : Nat) : List Char :=
  let digits := (hexDigits n).map Char.toUpper
  List.replicate (width - digits.length) '0' ++ digits

example : hex 2 10 = "0A".toList ∧ hex 2 0x1FF = "1FF".toList := by decide
example : ofHex? "fF".toList = some 255 ∧ ofHex? [] = none := by decide

end Text
end WireWrapper
