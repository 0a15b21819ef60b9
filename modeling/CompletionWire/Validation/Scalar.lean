import CompletionWire.Decimal.Numeral
import CompletionWire.Validation.Check

/-!
# Scalars

Lenient checks of single values. Numbers may be given as numerals, truth values as words or as zero
and one; a text is only ever a string. Numerals in data have ASCII digits alone, and a whole number
may end in a point and zeros.
-/

namespace CompletionWire

namespace Scalar

def zeroDigit : CodePoint := CodePoint.ofChar '0'

/-- The value of an ASCII digit. -/
def asciiDigit? (c : CodePoint) : Option Nat := if c.isAsciiDigit then some (c.val - 0x30) else none

/-- A string with surrogates has no numeral or word in it. -/
def readable (s : Text) : Bool := !s.any CodePoint.isSurrogate

/-- A text without its single underscores, if there are any and they stand neither first nor
last. -/
def withoutUnderscores? (t : Text) : Option Text :=
  let pieces := Text.splitOn Numeral.underscore t
  if 1 < pieces.length ∧ pieces.all (!·.isEmpty) then some pieces.flatten else none

/-! ### Whole numbers -/

/-- The whole number that a plain numeral writes: digits behind a minus sign if there is one, with
no zero in front of others. Too many digits are told apart from other faults, whatever stands behind
them. -/
def plainWhole (t : Text) : Except Rule Int :=
  let negative := t.head? = some Numeral.minusSign
  let body := if negative then t.drop 1 else t
  let digits := body.takeWhile CodePoint.isAsciiDigit
  if digits.head? = some zeroDigit then if body.length = 1 then .ok 0 else .error .intParsing
  else if Numeral.maxDigits < digits.length then .error .intParsingSize
  else if digits.isEmpty || digits.length < body.length then .error .intParsing
  else .ok (Numeral.signed negative (digits.foldl (fun n c => n * 10 + (c.val - 0x30)) 0))

/-- A numeral from its first digit other than zero on, or from a minus sign behind zeros; of zeros
alone, or before a point, the last one stays. -/
def trimLeadingZeros? (t : Text) : Option Text :=
  match t with
  | [] => none
  | c :: _ =>
    if c = zeroDigit then
      let run := t.takeWhile fun d => d = zeroDigit || d = Numeral.underscore
      match t.dropWhile fun d => d = zeroDigit || d = Numeral.underscore with
      | [] => some [run.getLastD zeroDigit]
      | d :: rest =>
        if d.isAsciiDigit || d = Numeral.minusSign then some (d :: rest)
        else if d = CodePoint.ofChar '.' then some (run.getLastD zeroDigit :: d :: rest)
        else none
    else if c.isAsciiDigit then some t
    else none

/-- A numeral without a point and the zeros behind it. -/
def trimFraction (t : Text) : Text :=
  match Text.cutAt (CodePoint.ofChar '.') t with
  | (whole, some (c :: rest)) => if (c :: rest).all (· = zeroDigit) then whole else t
  | _ => t

/-- A numeral without what a plain one does not have: blanks, a plus sign, leading zeros, a fraction
of zeros, and underscores. -/
def cleanWhole? (s : Text) : Option Text :=
  let (negative, body) := Numeral.cutSign (s.trimBy CodePoint.isWhiteSpace)
  (trimLeadingZeros? body).map fun trimmed =>
    let numeral := trimFraction (if negative then Numeral.minusSign :: trimmed else trimmed)
    (withoutUnderscores? numeral).getD numeral

/-- The whole number of a string. Only a plain numeral can have too many digits: one that has to be
cleaned first is then no numeral. -/
def wholeOf (s : Text) : Except Rule Int :=
  if !readable s then .error .stringUnicode
  else
    match plainWhole s with
    | .error .intParsing =>
      match (cleanWhole? s).map plainWhole with
      | some (.ok n) => .ok n
      | _ => .error .intParsing
    | outcome => outcome

/-- The bound of whole numbers of 64 bits: `2 ^ 63`. -/
def wordBound : Int := 0x8000000000000000

/-- The whole number that a binary64 number is, if it lies strictly within 64 bits. -/
def wholeWithin64? (x : Binary64) : Option Int :=
  x.toInt?.filter fun n => -wordBound < n && n < wordBound

/-- The whole number of a binary64 number. -/
def wholeOfBinary64 (x : Binary64) : Except Rule Int :=
  if !x.isFinite then .error .finiteNumber
  else if x.toInt?.isNone then .error .intFromFloat
  else
    match wholeWithin64? x with
    | some n => .ok n
    | none => .error .intParsingSize

def whole (v : Json) : Except Rule Int :=
  match v with
  | .int n => .ok n
  | .bool b => .ok (if b then 1 else 0)
  | .float x => wholeOfBinary64 x
  | .string s => wholeOf s
  | _ => .error .intType

/-- The outcome of a check of a single value. -/
def report {α : Type} (v : Json) : Except Rule α → Checked α
  | .ok a => .valid a
  | .error rule => .refuse rule v

/-- A whole number that is not negative. -/
def count (v : Json) : Checked Nat :=
  report v do
    let n ← whole v
    if n < 0 then throw .nonNegative else return n.toNat

/-! ### Binary64 numbers -/

/-- The binary64 number that a text writes, without blanks or underscores. -/
def binary64Of? (t : Text) : Option Binary64 :=
  if Numeral.underscore ∈ t then none
  else
    let (negative, body) := Numeral.cutSign t
    (Numeral.named? negative body).or (Numeral.decimal? asciiDigit? negative body)

/-- The binary64 number of a string, which may have either blanks around it or underscores. -/
def binary64Of (s : Text) : Except Rule Binary64 :=
  if !readable s then .error .stringUnicode
  else
    match (binary64Of? (s.trimBy CodePoint.isWhiteSpace)).or
        ((withoutUnderscores? s).bind binary64Of?) with
    | some x => .ok x
    | none => .error .floatParsing

def binary64 (v : Json) : Checked Binary64 :=
  report v <|
    match v with
    | .float x => .ok x
    | .int n => if (Binary64.ofInt n).isFinite then .ok (.ofInt n) else .error .floatType
    | .bool b => .ok (.ofInt (if b then 1 else 0))
    | .string s => binary64Of s
    | _ => .error .floatType

/-! ### Truth values -/

def yesWords : List Text := ["1", "t", "y", "on", "yes", "true"].map text

def noWords : List Text := ["0", "f", "n", "no", "off", "false"].map text

/-- The truth value that a word stands for. -/
def truthOfWord (s : Text) : Except Rule Bool :=
  if !readable s then .error .stringUnicode
  else
    let word := s.map CodePoint.asciiLower
    if word ∈ yesWords then .ok true
    else if word ∈ noWords then .ok false
    else .error .boolParsing

def truthOfWhole (n : Int) : Except Rule Bool :=
  if n = 0 then .ok false else if n = 1 then .ok true else .error .boolParsing

def truth (v : Json) : Checked Bool :=
  report v <|
    match v with
    | .bool b => .ok b
    | .string s => truthOfWord s
    | .int n => if -wordBound ≤ n ∧ n < wordBound then truthOfWhole n else .error .boolType
    | .float x =>
      match wholeWithin64? x with
      | some n => truthOfWhole n
      | none => .error .boolType
    | _ => .error .boolType

/-! ### Strings and containers -/

def string (v : Json) : Checked Text :=
  match v with
  | .string s => .valid s
  | _ => .refuse .stringType v

/-- The members of an object that is to be a model. -/
def model (name : Text) (v : Json) : Checked Members :=
  match v with
  | .object members => .valid members
  | _ => .refuse (.modelType name) v

/-- The members of an object of any content. -/
def object (v : Json) : Checked Members :=
  match v with
  | .object members => .valid members
  | _ => .refuse .dictType v

def array {α : Type} (rule : Rule) (check : Json → Checked α) (v : Json) : Checked (List α) :=
  match v with
  | .array items => Checked.items check 0 items
  | _ => .refuse rule v

def nullable {α : Type} (check : Json → Checked α) (v : Json) : Checked (Option α) :=
  match v with
  | .null => .valid none
  | _ => (check v).map some

def backend (v : Json) : Checked Backend :=
  report v <|
    match v with
    | .string s =>
      if !readable s then .error .stringUnicode
      else
        match Backend.ofTag? s with
        | some b => .ok b
        | none => .error .backendTag
    | _ => .error .backendTag

end Scalar

end CompletionWire
