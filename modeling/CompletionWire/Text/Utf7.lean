import CompletionWire.Text.Utf8

/-!
# UTF-7

ASCII stands for itself, and a plus sign opens a stretch of base64 digits, which write UTF-16 units.
The stretch ends with the first byte that is no digit, a hyphen being part of it; bits that are left
over must be few and zero.
-/

namespace CompletionWire

namespace Utf7

/-- The value of a base64 digit. -/
def digit? (b : UInt8) : Option Nat :=
  let n := b.toNat
  if 0x41 ≤ n ∧ n ≤ 0x5A then some (n - 0x41)
  else if 0x61 ≤ n ∧ n ≤ 0x7A then some (n - 0x61 + 26)
  else if 0x30 ≤ n ∧ n ≤ 0x39 then some (n - 0x30 + 52)
  else if n = 0x2B then some 62
  else if n = 0x2F then some 63
  else none

/-- A stretch of digits: the bits not yet used, how many they are, and a high surrogate that waits
for its low one. -/
structure Stretch where
  bits : Nat := 0
  count : Nat := 0
  high? : Option CodePoint := none

/-- Where the reading of bytes stands: in plain text, right behind a plus sign, or in a stretch. -/
inductive Mode
  | plain
  | opened
  | within (s : Stretch)

/-- Adds a unit to a stretch, and tells the code points that are complete now. -/
def Stretch.add (s : Stretch) (u : Nat) : Stretch × List (Option CodePoint) :=
  let c := CodePoint.ofNat u
  match s.high? with
  | some high =>
    if c.isLowSurrogate then ({ s with high? := none }, [some (.joinSurrogates high c)])
    else if c.isHighSurrogate then ({ s with high? := some c }, [some high])
    else ({ s with high? := none }, [some high, some c])
  | none =>
    if c.isHighSurrogate then ({ s with high? := some c }, []) else (s, [some c])

/-- Adds a digit to a stretch. -/
def Stretch.push (s : Stretch) (digit : Nat) : Stretch × List (Option CodePoint) :=
  let bits := s.bits * 64 + digit
  let count := s.count + 6
  if 16 ≤ count then
    let left := Nat.pow 2 (count - 16)
    Stretch.add { s with bits := bits % left, count := count - 16 } (bits / left)
  else ({ s with bits, count }, [])

/-- Whether the bits left over make up no digit and are zero. -/
def Stretch.isComplete (s : Stretch) : Bool := s.count < 6 && s.bits = 0

/-- Reads a byte of plain text. -/
def stepPlain (b : UInt8) : Mode × List (Option CodePoint) :=
  if b.toNat = 0x2B then (.opened, [])
  else if b.toNat < 0x80 then (.plain, [some (CodePoint.ofNat b.toNat)])
  else (.plain, [none])

/-- Reads a byte that is no digit at the end of a stretch. -/
def Stretch.close (s : Stretch) (b : UInt8) : Mode × List (Option CodePoint) :=
  if !s.isComplete then (.plain, [none])
  else
    let pending := if b.toNat < 0x80 then s.high?.toList.map some else []
    if b.toNat = 0x2D then (.plain, pending)
    else ((stepPlain b).1, pending ++ (stepPlain b).2)

/-- Reads a byte. -/
def step (b : UInt8) : Mode → Mode × List (Option CodePoint)
  | .plain => stepPlain b
  | .opened =>
    if b.toNat = 0x2D then (.plain, [some (CodePoint.ofChar '+')])
    else
      match digit? b with
      | some digit => (Stretch.push {} digit).map .within id
      | none => (.plain, [none])
  | .within s =>
    match digit? b with
    | some digit => (s.push digit).map .within id
    | none => s.close b

/-- Reads all bytes; a stretch may end with them if it is complete. -/
def decodeFrom (mode : Mode) : Bytes → List (Option CodePoint)
  | [] =>
    match mode with
    | .within s => if s.isComplete && s.high?.isNone then [] else [none]
    | _ => []
  | b :: rest =>
    let (mode, found) := step b mode
    found ++ decodeFrom mode rest

def decode (bytes : Bytes) : List (Option CodePoint) := decodeFrom .plain bytes

end Utf7

end CompletionWire
