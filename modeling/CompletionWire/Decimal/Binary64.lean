/-!
# Binary64 numbers

Finite numbers are numbered in order of magnitude, zero first, so that the next larger number is the
next rank. A significand that rounds up to a power of two carries into the exponent by the addition
that forms the rank, and a rank beyond the last one is an infinity. All arithmetic is exact, on
natural numbers.
-/

namespace CompletionWire

/-- A binary64 number; what is not a number has one form. -/
inductive Binary64
  | nan
  | infinity (negative : Bool)
  | finite (negative : Bool) (rank : Fin 0x7FF0000000000000)
deriving DecidableEq

namespace Binary64

/-- The whole number nearest to `num / den`, of two the even one. -/
def roundQuotient (num den : Nat) : Nat :=
  let whole := num / den
  let rest := num % den
  if 2 * rest < den then whole
  else if den < 2 * rest then whole + 1
  else whole + whole % 2

/-- The exponent of the power of two that `num / den` reaches, both being positive. -/
def binaryExponent (num den : Nat) : Int :=
  let e : Int := (num.log2 : Int) - den.log2
  if den * Nat.pow 2 e.toNat ≤ num * Nat.pow 2 (-e).toNat then e else e - 1

/-- How many ranks have one exponent: `2 ^ 52`. -/
def ranksPerExponent : Nat := 0x10000000000000

/-- The rank of a magnitude of `significand` units of `2 ^ unit`, with a significand below `2 ^ 53`
and, where the unit is not the least one, not below `2 ^ 52`. -/
def rankOf (significand : Nat) (unit : Int) : Nat :=
  (unit + 1074).toNat * ranksPerExponent + significand

/-- The number of a rank, if there is one; the infinity otherwise. -/
def ofRank (negative : Bool) (rank : Nat) : Binary64 :=
  if h : rank < 0x7FF0000000000000 then .finite negative ⟨rank, h⟩ else .infinity negative

def zero (negative : Bool) : Binary64 := .finite negative ⟨0, by decide⟩

/-- The number nearest to `num / den`, of two the one with the even significand. -/
def ofRatio (negative : Bool) (num den : Nat) : Binary64 :=
  if num = 0 then zero negative
  else
    let unit := max (binaryExponent num den - 52) (-1074)
    let significand := roundQuotient (num * Nat.pow 2 (-unit).toNat) (den * Nat.pow 2 unit.toNat)
    ofRank negative (rankOf significand unit)

/-- The number nearest to `digits * 10 ^ exponent`; exponents that leave no doubt are not multiplied
out. -/
def ofDecimal (negative : Bool) (digits : Nat) (exponent : Int) : Binary64 :=
  if digits = 0 then zero negative
  else if 310 < exponent then .infinity negative
  else if exponent < -(digits.log2 + 331 : Int) then zero negative
  else ofRatio negative (digits * Nat.pow 10 exponent.toNat) (Nat.pow 10 (-exponent).toNat)

def ofInt (n : Int) : Binary64 := ofRatio (decide (n < 0)) n.natAbs 1

/-! ### Views of a finite number -/

def significand (rank : Nat) : Nat :=
  if rank < ranksPerExponent then rank else ranksPerExponent + rank % ranksPerExponent

/-- The exponent of the unit that the significand of a rank counts. -/
def unit (rank : Nat) : Int := (max (rank / ranksPerExponent) 1 : Nat) - 1075

/-- The magnitude of a rank as a quotient. -/
def ratio (rank : Nat) : Nat × Nat :=
  (significand rank * Nat.pow 2 (unit rank).toNat, Nat.pow 2 (-unit rank).toNat)

def isFinite : Binary64 → Bool
  | .finite _ _ => true
  | _ => false

def toInt? : Binary64 → Option Int
  | .finite negative rank =>
    let (num, den) := ratio rank
    if num % den = 0 then
      some (if negative then -((num / den : Nat) : Int) else (num / den : Nat))
    else none
  | _ => none

/-- Equality of the numbers: the two zeros are equal, and what is not a number equals nothing. -/
def equals : Binary64 → Binary64 → Bool
  | .infinity a, .infinity b => a = b
  | .finite a r, .finite b s => r = s && (a = b || r.val = 0)
  | _, _ => false

/-- The place of a number among all of them, the two zeros sharing one. -/
def order : Binary64 → Int
  | .nan => 0
  | .infinity negative => if negative then -0x7FF0000000000000 else 0x7FF0000000000000
  | .finite negative rank => if negative then -(rank.val : Int) else rank.val

def larger (a b : Binary64) : Binary64 := if a.order < b.order then b else a

def smaller (a b : Binary64) : Binary64 := if b.order < a.order then b else a

end Binary64

end CompletionWire
