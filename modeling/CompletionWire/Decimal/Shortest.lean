import CompletionWire.Decimal.Binary64

/-!
# Decimals near a binary64 number

A magnitude has two neighbours on the grid of decimals with a given count of digits. `shortest`
takes the first grid on which one of them reads back as the same number, and there the nearer one;
so what is written always reads back, and never with more digits than needed. `rounded` takes the
nearer neighbour of one given grid.
-/

namespace CompletionWire

/-- The number `digits * 10 ^ exponent`. -/
structure Decimal where
  digits : Nat
  exponent : Int
deriving DecidableEq

namespace Decimal

/-- Cuts zeros off the end of the digits, at most `limit` of them. -/
def trimZeros : (limit : Nat) → Decimal → Decimal
  | 0, d => d
  | limit + 1, d => if d.digits % 10 = 0 then trimZeros limit ⟨d.digits / 10, d.exponent + 1⟩ else d

end Decimal

namespace Binary64

/-- The exponent of the power of ten that `num / den` reaches, both being positive: a power of two
fixes it up to one. -/
def decimalExponent (num den : Nat) : Int :=
  let least := binaryExponent num den * 78913 / 262144
  if den * Nat.pow 10 (least + 1).toNat ≤ num * Nat.pow 10 (-(least + 1)).toNat then least + 1
  else least

/-- The grid of decimals of `count` digits around a magnitude: its lower neighbour there, how far
above that the magnitude lies, as a numerator over a denominator, and the exponent of the step. -/
structure Grid where
  lower : Nat
  above : Nat
  step : Nat
  exponent : Int

def grid (num den count : Nat) : Grid :=
  let exponent := decimalExponent num den + 1 - count
  let num := num * Nat.pow 10 (-exponent).toNat
  let den := den * Nat.pow 10 exponent.toNat
  { lower := num / den, above := num % den, step := den, exponent }

/-- Whether the lower neighbour is the nearer one, or the even one of two at equal distance. -/
def Grid.prefersLower (g : Grid) : Bool :=
  2 * g.above < g.step || (2 * g.above = g.step && g.lower % 2 = 0)

def Grid.lowerPoint (g : Grid) : Decimal := ⟨g.lower, g.exponent⟩

def Grid.upperPoint (g : Grid) : Decimal := ⟨g.lower + 1, g.exponent⟩

/-- The two neighbours, the nearer one first. -/
def Grid.points (g : Grid) : List Decimal :=
  if g.prefersLower then [g.lowerPoint, g.upperPoint] else [g.upperPoint, g.lowerPoint]

/-- Whether a decimal is read as the number of a rank. -/
def readsAs (rank : Nat) (d : Decimal) : Bool :=
  decide (ofDecimal false d.digits d.exponent = ofRank false rank)

/-- All the digits of a magnitude. -/
def exactDecimal (rank : Nat) : Decimal :=
  ⟨significand rank * Nat.pow 2 (unit rank).toNat * Nat.pow 5 (-unit rank).toNat,
    min (unit rank) 0⟩

/-- The decimal with the fewest digits that is read as the magnitude of a rank, of these the
nearest. -/
def shortest (rank : Nat) : Decimal :=
  if rank = 0 then ⟨0, 0⟩
  else
    let (num, den) := ratio rank
    let candidates := (List.range 17).flatMap fun i => (grid num den (i + 1)).points
    ((candidates.find? (readsAs rank)).getD (exactDecimal rank)).trimZeros 17

/-- The decimal of `count` digits nearest to the magnitude of a rank, without zeros at its end. -/
def rounded (count rank : Nat) : Decimal :=
  if rank = 0 then ⟨0, 0⟩
  else
    let (num, den) := ratio rank
    let g := grid num den count
    (if g.prefersLower then g.lowerPoint else g.upperPoint).trimZeros count

end Binary64

end CompletionWire
