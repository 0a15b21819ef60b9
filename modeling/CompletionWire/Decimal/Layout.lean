import CompletionWire.Decimal.Shortest
import CompletionWire.Text.CodePoint

/-!
# Number texts

A decimal is laid out positionally while its point stays near its digits, and with an exponent of at
least two digits otherwise. One record says how far the point may move and whether whole numbers
show a fraction; a second one names what is not finite.
-/

namespace CompletionWire

namespace Decimal

/-- How decimals are laid out: positionally as long as the point stands at most `furthest` digits
behind the first one, and with `.0` behind whole numbers or not. -/
structure Layout where
  furthest : Int
  wholeFraction : Bool

/-- Full precision: positional below ten to the sixteenth, a fraction in every positional text. -/
def Layout.full : Layout := ⟨16, true⟩

/-- Three significant digits: positional below a thousand, no fraction without need. -/
def Layout.threeDigits : Layout := ⟨3, false⟩

def zeros (count : Int) : Text := List.replicate count.toNat (CodePoint.ofChar '0')

def point : CodePoint := CodePoint.ofChar '.'

/-- Digits with the point behind the first `place` of them, zeros filling the gap on either side. -/
def positional (layout : Layout) (digits : Text) (place : Int) : Text :=
  if place ≤ 0 then text "0." ++ zeros (-place) ++ digits
  else if (digits.length : Int) ≤ place then
    digits ++ zeros (place - digits.length) ++ if layout.wholeFraction then text ".0" else []
  else digits.take place.toNat ++ point :: digits.drop place.toNat

def exponentText (e : Int) : Text :=
  (if e < 0 then text "e-" else text "e+") ++
    (if e.natAbs < 10 then text "0" else []) ++ Text.ofNat e.natAbs

/-- Digits with the point behind the first one, and the exponent that moves it there. -/
def scientific (digits : Text) (place : Int) : Text :=
  digits.take 1 ++ (if digits.length ≤ 1 then [] else point :: digits.drop 1) ++
    exponentText (place - 1)

def write (layout : Layout) (d : Decimal) : Text :=
  let digits := Text.ofNat d.digits
  let place := digits.length + d.exponent
  if -4 < place ∧ place ≤ layout.furthest then positional layout digits place
  else scientific digits place

end Decimal

namespace Binary64

/-- What the numbers that have no decimal are called. -/
structure Names where
  nan : Text
  infinity : Text

def Names.short : Names := ⟨text "nan", text "inf"⟩

def Names.long : Names := ⟨text "NaN", text "Infinity"⟩

def signText (negative : Bool) : Text := if negative then text "-" else []

/-- The shortest text of a number that reads back. -/
def write (names : Names) : Binary64 → Text
  | .nan => names.nan
  | .infinity negative => signText negative ++ names.infinity
  | .finite negative rank => signText negative ++ (shortest rank).write .full

/-- A number to three significant digits. -/
def writeThreeDigits : Binary64 → Text
  | .finite negative rank => signText negative ++ (rounded 3 rank).write .threeDigits
  | x => x.write .short

end Binary64

end CompletionWire
