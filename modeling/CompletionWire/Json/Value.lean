import CompletionWire.Decimal.Binary64
import CompletionWire.Text.CodePoint

/-!
# JSON values

Whole numbers are exact and distinct from binary64 numbers, and the members of an object keep their
order. Two equalities live here: the structural one of the type, and `agrees`, under which numbers
and truth values are compared by what they count and the order of members does not matter.
-/

namespace CompletionWire

inductive Json
  | null
  | bool (value : Bool)
  | int (value : Int)
  | float (value : Binary64)
  | string (value : Text)
  | array (items : List Json)
  | object (members : List (Text × Json))
deriving Inhabited

abbrev Members := List (Text × Json)

namespace Members

def find? (key : Text) : Members → Option Json
  | [] => none
  | (k, v) :: rest => if k = key then some v else find? key rest

/-- The members with `value` under `key`, in the place of an older value or else at the end. -/
def put (key : Text) (value : Json) : Members → Members
  | [] => [(key, value)]
  | (k, v) :: rest => if k = key then (k, value) :: rest else (k, v) :: put key value rest

def drop (key : Text) (members : Members) : Members := members.filter (·.1 ≠ key)

/-- The members with a changed value under a key, if there is one. -/
def change (key : Text) (f : Json → Json) (members : Members) : Members :=
  members.map fun (k, v) => if k = key then (k, f v) else (k, v)

end Members

namespace Json

/-! ### Changing parts -/

def push (item : Json) : Json → Json
  | .array items => .array (items ++ [item])
  | v => v

/-- An object with a changed value under a key. -/
def within (key : Text) (f : Json → Json) : Json → Json
  | .object members => .object (Members.change key f members)
  | v => v

/-! ### Numbers -/

/-- The whole number that a value is, truth values counting as zero and one. -/
def whole? : Json → Option Int
  | .bool b => some (if b then 1 else 0)
  | .int n => some n
  | _ => none

/-- Whether two values are numbers or truth values of one size. -/
def sameNumber : Json → Json → Bool
  | .float x, .float y => x.equals y
  | .float x, w => w.whole?.any (x.toInt? = some ·)
  | v, .float y => v.whole?.any (y.toInt? = some ·)
  | v, w => v.whole?.any (w.whole? = some ·)

/-! ### Agreement -/

mutual

/-- Equality that takes numbers by their size and objects as sets of members. -/
def agrees : Json → Json → Bool
  | .null, .null => true
  | .string s, .string t => s = t
  | .array xs, .array ys => itemsAgree xs ys
  | .object ms, .object ns => ms.length = ns.length && membersAgree ms ns
  | v, w => sameNumber v w

def itemsAgree : List Json → List Json → Bool
  | [], [] => true
  | x :: xs, y :: ys => agrees x y && itemsAgree xs ys
  | _, _ => false

def membersAgree : List (Text × Json) → Members → Bool
  | [], _ => true
  | (k, v) :: rest, ns =>
    (match ns.find? k with
      | some w => agrees v w
      | none => false) && membersAgree rest ns

end

/-! ### Finiteness -/

mutual

def isFinite : Json → Bool
  | .float x => x.isFinite
  | .array xs => itemsFinite xs
  | .object ms => membersFinite ms
  | _ => true

def itemsFinite : List Json → Bool
  | [] => true
  | x :: xs => x.isFinite && itemsFinite xs

def membersFinite : List (Text × Json) → Bool
  | [] => true
  | (_, v) :: rest => v.isFinite && membersFinite rest

end

end Json

end CompletionWire
