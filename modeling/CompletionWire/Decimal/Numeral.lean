import CompletionWire.Decimal.Binary64
import CompletionWire.Text.Blank
import CompletionWire.Text.Digit

/-!
# Numerals of settings

Numbers in settings and command lines may stand between blanks, carry a sign, use the digits of any
script, and separate digits by single underscores. Whole numbers have a limit on their digits,
leading zeros included; other numbers may be written with a point, an exponent, or as a name.
-/

namespace CompletionWire

namespace Numeral

/-- Blanks around a numeral: of the ASCII control characters only tab to carriage return. -/
def isBlank (c : CodePoint) : Bool := c.isWhiteSpace

def plusSign : CodePoint := CodePoint.ofChar '+'

def minusSign : CodePoint := CodePoint.ofChar '-'

def underscore : CodePoint := CodePoint.ofChar '_'

/-- Whether a text begins with a minus sign, and what follows the sign if there is one. -/
def cutSign : Text → Bool × Text
  | [] => (false, [])
  | c :: rest =>
    if c = minusSign then (true, rest)
    else if c = plusSign then (false, rest)
    else (false, c :: rest)

structure Digits where
  count : Nat := 0
  value : Nat := 0
deriving DecidableEq

def Digits.push (d : Digits) (digit : Nat) : Digits := ⟨d.count + 1, d.value * 10 + digit⟩

/-- Reads digits behind `read`, with single underscores between two of them, and returns the
rest. -/
def takeDigits (value? : CodePoint → Option Nat) (read : Digits) : Text → Digits × Text
  | [] => (read, [])
  | c :: rest =>
    match value? c with
    | some digit => takeDigits value? (read.push digit) rest
    | none =>
      if c = underscore ∧ 0 < read.count ∧ (rest.head?.bind value?).isSome then
        takeDigits value? read rest
      else (read, c :: rest)

/-- The most digits a whole number may have. -/
def maxDigits : Nat := 4300

def signed (negative : Bool) (n : Nat) : Int := if negative then -(n : Int) else n

def int? (t : Text) : Option Int :=
  let (negative, body) := cutSign (t.trimBy isBlank)
  match takeDigits CodePoint.decimalValue? {} body with
  | (digits, []) =>
    if 0 < digits.count ∧ digits.count ≤ maxDigits then some (signed negative digits.value)
    else none
  | _ => none

/-- The exponent that a text writes behind an `e`; no text at all stands for zero. -/
def exponent? (value? : CodePoint → Option Nat) : Text → Option Int
  | [] => some 0
  | c :: rest =>
    if c.asciiLower = CodePoint.ofChar 'e' then
      let (negative, body) := cutSign rest
      match takeDigits value? {} body with
      | (digits, []) => if digits.count = 0 then none else some (signed negative digits.value)
      | _ => none
    else none

/-- Digits, a point and more digits if there are any, and the exponent. -/
def decimal? (value? : CodePoint → Option Nat) (negative : Bool) (body : Text) : Option Binary64 :=
  let (whole, afterWhole) := takeDigits value? {} body
  let (fraction, afterFraction) :=
    match afterWhole with
    | c :: rest =>
      if c = CodePoint.ofChar '.' then takeDigits value? {} rest else ({}, afterWhole)
    | [] => ({}, [])
  if whole.count + fraction.count = 0 then none
  else
    (exponent? value? afterFraction).map fun e =>
      Binary64.ofDecimal negative (whole.value * Nat.pow 10 fraction.count + fraction.value)
        (e - fraction.count)

/-- The number that one of the names stands for. -/
def named? (negative : Bool) (body : Text) : Option Binary64 :=
  let name := body.map CodePoint.asciiLower
  if name = text "inf" ∨ name = text "infinity" then some (.infinity negative)
  else if name = text "nan" then some .nan
  else none

/-- The binary64 number that a numeral writes. -/
def binary64? (t : Text) : Option Binary64 :=
  let (negative, body) := cutSign (t.trimBy isBlank)
  match named? negative body with
  | some x => some x
  | none => decimal? CodePoint.decimalValue? negative body

end Numeral

end CompletionWire
