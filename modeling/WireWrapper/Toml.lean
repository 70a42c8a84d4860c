import WireWrapper.Decimal

/-!
# TOML values

* `Toml`             a value;
* `Toml.isInRange`   whether every number in it has a value that can be held: integers in 128 bits,
                     other numbers in binary64.
-/

namespace WireWrapper

/-- A TOML value.  A table keeps its members in the order written; its names are distinct. -/
inductive Toml where
  | text (value : String)
  | integer (value : Int)
  | real (value : Decimal)
  /-- An infinity or no number at all. -/
  | special
  | bool (value : Bool)
  /-- A date, a time or both. -/
  | moment
  /-- What stands where an integer may stand, but has no value. -/
  | unreadable
  | array (items : List Toml)
  | table (members : List (String × Toml))
deriving Repr, Inhabited

namespace Toml

mutual

/-- Whether every number in a value can be held. -/
def isInRange : Toml → Bool
  | integer n => (-n).toNat ≤ Nat.pow 2 127 && n.toNat < Nat.pow 2 128
  | real d => d.fits
  | array items => itemsInRange items
  | table members => membersInRange members
  | unreadable => false
  | _ => true

def itemsInRange : List Toml → Bool
  | [] => true
  | t :: ts => isInRange t && itemsInRange ts

def membersInRange : List (String × Toml) → Bool
  | [] => true
  | (_, t) :: ms => isInRange t && membersInRange ms

end

end Toml
end WireWrapper
