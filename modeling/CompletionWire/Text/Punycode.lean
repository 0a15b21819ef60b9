import CompletionWire.Text.CodePoint

/-!
# Punycode

The ASCII form of a label of a host name: its ASCII code points, a hyphen, and one number of
variable length for each other code point in order of their values, which says how far the insertion
of that code point is from the last one. The thresholds between the digits of a number follow a bias
that adapts to the numbers before. A form is read digit by digit: each number that ends inserts one
code point.
-/

namespace CompletionWire

namespace Punycode

/-- The letter of a digit: a to z, then 0 to 9. -/
def digit (d : Nat) : CodePoint := CodePoint.ofNat (if d < 26 then 0x61 + d else 0x30 + d - 26)

/-- The value of a digit, in small letters or capitals. -/
def digitValue? (c : CodePoint) : Option Nat :=
  let n := c.asciiLower.val
  if 0x61 ≤ n ∧ n ≤ 0x7A then some (n - 0x61)
  else if c.isAsciiDigit then some (n - 0x30 + 26)
  else none

/-- Below which value a digit at place `k` ends a number. -/
def threshold (bias k : Nat) : Nat := min 26 (max 1 (k - bias))

/-- Divides a distance until it is small and counts the places that saves. -/
def settle (delta k : Nat) : Nat :=
  if 455 < delta then settle (delta / 35) (k + 36) else k + 36 * delta / (delta + 38)
termination_by delta
decreasing_by exact Nat.div_lt_self (by omega) (by omega)

/-- The bias behind a distance that ended with `count` code points written. -/
def adapt (delta count : Nat) (first : Bool) : Nat :=
  let delta := if first then delta / 700 else delta / 2
  settle (delta + delta / count) 0

/-- The digits of a number, lowest place first. -/
def digits (bias k n : Nat) : Text :=
  if n < threshold bias k then [digit n]
  else
    digit (threshold bias k + (n - threshold bias k) % (36 - threshold bias k)) ::
      digits bias (k + 36) ((n - threshold bias k) / (36 - threshold bias k))
termination_by n
decreasing_by
  have hpos : 1 ≤ threshold bias k := by simp only [threshold]; omega
  exact Nat.lt_of_le_of_lt (Nat.div_le_self _ _) (by omega)

/-- The text written so far, latest first, and what the next number depends on. -/
structure State where
  written : Text
  delta : Nat := 0
  bias : Nat := 72
  count : Nat

/-- Passes one code point of the label while those of value `n` are inserted. -/
def State.pass (basic n : Nat) (s : State) (c : CodePoint) : State :=
  if c.val < n then { s with delta := s.delta + 1 }
  else if c.val = n then
    { written := (digits s.bias 36 s.delta).reverse ++ s.written
      bias := adapt s.delta (s.count + 1) (s.count = basic)
      count := s.count + 1 }
  else s

/-- Inserts the code points of each value in turn, the last value before them being `n`. -/
def State.insertAll (label : Text) (basic n : Nat) (s : State) : List Nat → State
  | [] => s
  | m :: rest =>
    let moved := { s with delta := s.delta + (m - n) * (s.count + 1) }
    let passed := label.foldl (State.pass basic m) moved
    State.insertAll label basic (m + 1) { passed with delta := passed.delta + 1 } rest

/-- The Punycode of a label. -/
def encode (label : Text) : Text :=
  let basic := label.filter (·.val < 0x80)
  let others := ((label.map (·.val)).filter (0x80 ≤ ·)).mergeSort.eraseDups
  let start := if basic.isEmpty then [] else basic ++ [CodePoint.ofChar '-']
  let initial : State := { written := start.reverse, count := basic.length }
  (State.insertAll label basic.length 0x80 initial others).written.reverse

/-! ### Reading -/

/-- The text read so far, and what the next digit depends on: the code point that was inserted last
and the place behind it, and of the number that is being read its place, its weight there and its
sum. -/
structure Reading where
  text : Text
  codePoint : Nat := 0x80
  position : Nat := 0
  bias : Nat := 72
  first : Bool := true
  place : Nat := 36
  weight : Nat := 1
  sum : Nat := 0

/-- The number of the code point that ends a number, `delta` being how far it is from the last one,
and the place where it belongs. -/
def Reading.target (r : Reading) (delta : Nat) : Nat × Nat :=
  let size := r.text.length + 1
  (r.codePoint + (r.position + delta) / size, (r.position + delta) % size)

/-- Inserts a code point by its number. -/
def Reading.insert (r : Reading) (delta codePoint position : Nat) : Reading where
  text := r.text.take position ++ CodePoint.ofNat codePoint :: r.text.drop position
  codePoint := codePoint
  position := position + 1
  bias := adapt delta (r.text.length + 1) r.first
  first := false

/-- Inserts the code point that a number says; `beyond?` takes the place of one beyond the last. -/
def Reading.finish? (beyond? : Option Nat) (r : Reading) (delta : Nat) : Option Reading :=
  let (codePoint, position) := r.target delta
  (if codePoint < 0x110000 then some codePoint else beyond?).map (r.insert delta · position)

/-- Reads a digit: one below the threshold ends its number. -/
def Reading.push? (beyond? : Option Nat) (r : Reading) (c : CodePoint) : Option Reading :=
  (digitValue? c).bind fun d =>
    let bound := threshold r.bias r.place
    let sum := r.sum + d * r.weight
    if d < bound then r.finish? beyond? sum
    else some { r with place := r.place + 36, weight := r.weight * (36 - bound), sum }

/-- What stands before the last hyphen of a form, and the digits behind it. -/
def parts (form : Text) : Text × Text :=
  let digits := (form.reverse.takeWhile (· ≠ CodePoint.ofChar '-')).reverse
  (form.take (form.length - digits.length - 1), digits)

/-- The label of an ASCII form; the last number must have ended. -/
def decode? (form : Text) : Option Text :=
  let (basic, digits) := parts form
  (digits.foldlM (Reading.push? none) { text := basic }).bind fun r =>
    if r.place = 36 then some r.text else none

/-- Reads digits as long as they can be read, a question mark taking the place of what lies beyond
the last code point. -/
def Reading.pushAll (r : Reading) : Text → Reading
  | [] => r
  | c :: rest =>
    match r.push? (some 0x3F) c with
    | some r => r.pushAll rest
    | none => r

/-- As much of a label as can be read. -/
def readable (basic digits : Text) : Text := (Reading.pushAll { text := basic } digits).text

end Punycode

end CompletionWire
