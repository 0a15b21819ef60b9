import CompletionWire.Text.Utf8

/-!
# Backslash escapes

Bytes that write a text with escapes: a backslash and what stands behind it write one code point,
and every other byte is the code point of its number. Names of code points are not looked up.
-/

namespace CompletionWire

namespace Escape

/-- What the start of some bytes writes, and how many bytes it takes. -/
abbrev Found := List (Option CodePoint) × Nat

def plain (b : UInt8) : Option CodePoint := some (CodePoint.ofNat b.toNat)

def hexDigit? (b : UInt8) : Option Nat := (CodePoint.ofNat b.toNat).hexValue?

/-- A code point by its number in so many hexadecimal digits, behind a letter. -/
def hexadecimal (count : Nat) (bytes : Bytes) : Found :=
  let digits := ((bytes.take count).map hexDigit?).takeWhile (·.isSome)
  let n := digits.foldl (fun n d => n * 16 + d.getD 0) 0
  (if digits.length = count ∧ n < 0x110000 then [some (CodePoint.ofNat n)] else [none],
    digits.length + 1)

def isOctalDigit (b : UInt8) : Bool := 0x30 ≤ b.toNat && b.toNat ≤ 0x37

def octal (bytes : Bytes) : Found :=
  let digits := (bytes.take 3).takeWhile isOctalDigit
  ([some (CodePoint.ofNat (digits.foldl (fun n b => n * 8 + (b.toNat - 0x30)) 0))], digits.length)

/-- A name between braces, behind a letter: no code point goes by it. -/
def name (bytes : Bytes) : Found :=
  match bytes with
  | 0x7B :: rest =>
    let inside := rest.takeWhile (· ≠ 0x7D)
    let closed := if inside.length < rest.length ∧ !inside.isEmpty then 1 else 0
    ([none], 2 + inside.length + closed)
  | _ => ([none], 1)

/-- What single letters behind a backslash write. -/
def letters : List (UInt8 × List Nat) := [
  (0x0A, []), (0x5C, [0x5C]), (0x27, [0x27]), (0x22, [0x22]), (0x62, [8]), (0x66, [0xC]),
  (0x74, [9]), (0x6E, [0xA]), (0x72, [0xD]), (0x76, [0xB]), (0x61, [7])]

/-- What stands behind a backslash. -/
def escaped : Bytes → Found
  | [] => ([none], 0)
  | b :: rest =>
    match letters.find? (·.1 = b) with
    | some (_, written) => (written.map fun n => some (CodePoint.ofNat n), 1)
    | none =>
      if isOctalDigit b then octal (b :: rest)
      else if b = 0x78 then hexadecimal 2 rest
      else if b = 0x75 then hexadecimal 4 rest
      else if b = 0x55 then hexadecimal 8 rest
      else if b = 0x4E then name rest
      else ([plain 0x5C, plain b], 1)

/-- What stands behind a backslash where only numbers are escapes. -/
def rawEscaped : Bytes → Found
  | [] => ([plain 0x5C], 0)
  | b :: rest =>
    if b = 0x75 then hexadecimal 4 rest
    else if b = 0x55 then hexadecimal 8 rest
    else ([plain 0x5C, plain b], 1)

/-- The code points of bytes; `raw` says that only numbers are escapes. -/
def decode (raw : Bool) : Bytes → List (Option CodePoint)
  | [] => []
  | b :: rest =>
    if b = 0x5C then
      let (written, size) := if raw then rawEscaped rest else escaped rest
      written ++ decode raw (rest.drop size)
    else plain b :: decode raw rest
termination_by bytes => bytes.length
decreasing_by all_goals simp only [List.length_cons, List.length_drop]; omega

end Escape

end CompletionWire
