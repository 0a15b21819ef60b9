import CompletionWire.Text.Code
import CompletionWire.Text.DoubleByte.Jis0208
import CompletionWire.Text.DoubleByte.Jis0208Windows
import CompletionWire.Text.DoubleByte.Jis0212
import CompletionWire.Text.DoubleByte.Jis0213

/-!
# Japanese charsets

Two ways to write rows and cells in two bytes: with the highest bit of each set, or with the first
byte shifted out of the way of the narrow katakana. Either is used for the first set of Japanese,
and for the second, which has two planes and came in two editions.
-/

namespace CompletionWire

namespace Japanese

/-- The edition of the second set; the later one has more signs, and one in another form. -/
inductive Edition
  | first
  | later
deriving DecidableEq

/-- Whether a code of the first plane came with a later edition. -/
def Edition.lacks (edition : Edition) (row cell : Nat) : Bool :=
  edition = .first && CodeTable.jis0213Later.contains (row, cell)

/-- The text of a code in the first plane of the second set. -/
def firstPlane? (edition : Edition) (row cell : Nat) : Option Text :=
  if edition.lacks row cell then none
  else
    let one? := (CodeTable.jis0208.find? row cell).or (CodeTable.jis0213First.find? row cell)
    (one?.map ([·])).or (CodeTable.pair? CodeTable.jis0213Pairs row cell)

def secondPlane? (edition : Edition) (row cell : Nat) : Option CodePoint :=
  if edition = .first ∧ row = 0x7D ∧ cell = 0x3B then some (CodePoint.ofNat 0x9B1D)
  else CodeTable.jis0213Second.find? row cell

/-- The letters of one byte, which have two signs of their own in place of those of ASCII. -/
def roman? (a : Nat) : Option CodePoint :=
  if a = 0x5C then some (CodePoint.ofNat 0xA5)
  else if a = 0x7E then some (CodePoint.ofNat 0x203E)
  else if a < 0x80 then some (CodePoint.ofNat a)
  else none

/-- The narrow katakana. -/
def katakana? (a : Nat) : Option CodePoint :=
  if 0xA1 ≤ a ∧ a ≤ 0xDF then some (CodePoint.ofNat (0xFEC0 + a)) else none

/-! ### Highest bits set -/

/-- Reads a code whose bytes have their highest bit set: of two bytes, or of three for the
supplement, or of two for katakana. -/
def nextExtended (main? : Nat → Nat → Option Text) (supplement? : Nat → Nat → Option CodePoint)
    (a : UInt8) (rest : Bytes) : Code.Piece :=
  if a.toNat < 0x80 then Code.single a
  else if a = 0x8E then Code.double (fun _ b => (katakana? b).map ([·])) a rest
  else if a = 0x8F then
    match rest with
    | b :: c :: _ =>
      .ofPoint 3 1 (if 0x80 ≤ b.toNat ∧ 0x80 ≤ c.toNat then
        supplement? (b.toNat - 0x80) (c.toNat - 0x80) else none)
    | _ => .cutShort
  else
    Code.double (fun a b => if 0x80 ≤ b then main? (a - 0x80) (b - 0x80) else none) a rest

def nextEucJp : UInt8 → Bytes → Code.Piece :=
  nextExtended (Code.onePoint CodeTable.jis0208.find?) CodeTable.jis0212.find?

/-- The second plane shares the codes of three bytes with the supplement. -/
def nextEucJisx0213 (edition : Edition) (a : UInt8) (rest : Bytes) : Code.Piece :=
  if rest.head?.any fun b => edition.lacks (a.toNat - 0x80) (b.toNat - 0x80) then .wrong 2
  else
    nextExtended (firstPlane? edition) (fun row cell =>
      (secondPlane? edition row cell).or (CodeTable.jis0212.find? row cell)) a rest

/-! ### First byte shifted -/

/-- Whether a byte begins a code of two bytes. -/
def isLead (a : Nat) : Bool := (0x81 ≤ a && a ≤ 0x9F) || (0xE0 ≤ a && a ≤ 0xFC)

def isTrail (b : Nat) : Bool := 0x40 ≤ b && b ≤ 0xFC && b ≠ 0x7F

/-- The row, counted from zero, and the cell of a code; a first byte has two rows. -/
def place (a b : Nat) : Nat × Nat :=
  let pair := if a < 0xE0 then a - 0x81 else a - 0xC1
  let i := if b < 0x80 then b - 0x40 else b - 0x41
  (2 * pair + i / 94, i % 94 + 0x21)

def shiftJis? (a b : Nat) : Option CodePoint :=
  if isTrail b then
    let (row, cell) := place a b
    CodeTable.jis0208.find? (row + 0x21) cell
  else none

/-- The rows of the second plane that stand behind those of the first. -/
def secondPlaneRow (row : Nat) : Nat :=
  if 0x67 ≤ row then row + 0x07
  else if 0x63 ≤ row ∨ row = 0x5F then row - 0x37
  else row - 0x3D

/-- The signs of ASCII that are not among the letters of one byte. -/
def asciiSign? (row cell : Nat) : Option CodePoint :=
  if row = 0x21 ∧ cell = 0x40 then some (CodePoint.ofChar '\\')
  else if row = 0x22 ∧ cell = 0x32 then some (CodePoint.ofChar '~')
  else none

def shiftJisx0213? (edition : Edition) (a b : Nat) : Option Text :=
  if isTrail b then
    let (row, cell) := place a b
    if row < 0x5E then
      ((asciiSign? (row + 0x21) cell).map ([·])).or (firstPlane? edition (row + 0x21) cell)
    else (secondPlane? edition (secondPlaneRow row) cell).map ([·])
  else none

/-- Reads a code of one byte or of two. -/
def nextShifted (one? : Nat → Option CodePoint) (two? : Nat → Nat → Option Text) (a : UInt8)
    (rest : Bytes) : Code.Piece :=
  match (one? a.toNat).or (katakana? a.toNat) with
  | some c => .code [c] 1
  | none => if isLead a.toNat then Code.double two? a rest else .wrong 1

def nextShiftJis : UInt8 → Bytes → Code.Piece :=
  nextShifted (fun a => if a < 0x80 then some (CodePoint.ofNat a) else none)
    (Code.onePoint shiftJis?)

/-- Whether a code of two bytes came with a later edition. -/
def Edition.lacksShifted (edition : Edition) (a b : Nat) : Bool :=
  isLead a && isTrail b && edition.lacks ((place a b).1 + 0x21) (place a b).2

def nextShiftJisx0213 (edition : Edition) (a : UInt8) (rest : Bytes) : Code.Piece :=
  if rest.head?.any fun b => edition.lacksShifted a.toNat b.toNat then .wrong 2
  else nextShifted roman? (shiftJisx0213? edition) a rest

/-! ### With signs of a maker -/

/-- The bytes that are codes of their own beside ASCII and the katakana. -/
def makerByte? (a : Nat) : Option CodePoint :=
  if a ≤ 0x80 then some (CodePoint.ofNat a)
  else if a = 0xA0 then some (CodePoint.ofNat 0xF8F0)
  else if 0xFD ≤ a then some (CodePoint.ofNat (0xF8F1 + (a - 0xFD)))
  else none

/-- A code of two bytes: a maker's sign, a sign of the first set, or one of private use. -/
def cp932? (a b : Nat) : Option CodePoint :=
  (CodeTable.cp932.find? a b).or
    (if !isTrail b then none
    else if a ≤ 0x9F ∨ 0xE0 ≤ a ∧ a ≤ 0xEA then shiftJis? a b
    else if 0xF0 ≤ a ∧ a ≤ 0xF9 then
      some (CodePoint.ofNat (0xE000 + 188 * (a - 0xF0) + (if b < 0x80 then b - 0x40 else b - 0x41)))
    else none)

def nextCp932 (a : UInt8) (rest : Bytes) : Code.Piece :=
  match (makerByte? a.toNat).or (katakana? a.toNat) with
  | some c => .code [c] 1
  | none => Code.double (Code.onePoint cp932?) a rest

end Japanese

end CompletionWire
