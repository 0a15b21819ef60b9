import CompletionWire.Text.Utf8

/-!
# UTF-16 and UTF-32

Texts in units of two or four bytes, in either order. A mark at the start may tell the order;
without one there must be another way to know it. A unit that is no code point stands for nothing,
and so does what is left when the bytes end in the middle.
-/

namespace CompletionWire

namespace Utf16

/-- The number of a unit of some bytes. -/
def unit (bigEndian : Bool) (bytes : Bytes) : Nat :=
  (if bigEndian then bytes else bytes.reverse).foldl (fun n b => n * 256 + b.toNat) 0

/-- The code points of bytes, `open?` being a high surrogate that waits for its low one. -/
def decodeFrom (bigEndian : Bool) (open? : Option CodePoint) : Bytes → List (Option CodePoint)
  | a :: b :: rest =>
    let c := CodePoint.ofNat (unit bigEndian [a, b])
    match open? with
    | some high =>
      if c.isLowSurrogate then some (.joinSurrogates high c) :: decodeFrom bigEndian none rest
      else if c.isHighSurrogate then none :: decodeFrom bigEndian (some c) rest
      else none :: some c :: decodeFrom bigEndian none rest
    | none =>
      if c.isHighSurrogate then decodeFrom bigEndian (some c) rest
      else if c.isLowSurrogate then none :: decodeFrom bigEndian none rest
      else some c :: decodeFrom bigEndian none rest
  | [_] => [none]
  | [] => if open?.isSome then [none] else []

def decode (bigEndian : Bool) (bytes : Bytes) : List (Option CodePoint) :=
  decodeFrom bigEndian none bytes

/-- The order that a mark at the start tells, and what stands behind the mark. -/
def byteOrder? : Bytes → Option (Bool × Bytes)
  | 0xFE :: 0xFF :: rest => some (true, rest)
  | 0xFF :: 0xFE :: rest => some (false, rest)
  | _ => none

end Utf16

namespace Utf32

/-- The code points of bytes. -/
def decode (bigEndian : Bool) : Bytes → List (Option CodePoint)
  | a :: b :: c :: d :: rest =>
    let n := Utf16.unit bigEndian [a, b, c, d]
    let point := CodePoint.ofNat n
    (if n < 0x110000 && !point.isSurrogate then some point else none) :: decode bigEndian rest
  | [] => []
  | _ => [none]

/-- The order that a mark at the start tells, and what stands behind the mark. -/
def byteOrder? : Bytes → Option (Bool × Bytes)
  | 0x00 :: 0x00 :: 0xFE :: 0xFF :: rest => some (true, rest)
  | 0xFF :: 0xFE :: 0x00 :: 0x00 :: rest => some (false, rest)
  | _ => none

end Utf32

end CompletionWire
