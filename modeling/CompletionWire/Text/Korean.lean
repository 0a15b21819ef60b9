import CompletionWire.Text.Code
import CompletionWire.Text.DoubleByte.Ksx1001

/-!
# Korean charsets

Three ways to write the set of Korean, which has only the syllables in use: by its rows, where rare
syllables are spelled out; by its rows with the other syllables in between; and by the letters of
each syllable.
-/

namespace CompletionWire

namespace Korean

def ksx1001? (a b : Nat) : Option CodePoint := CodeTable.ksx1001.findHigh? a b

def firstSyllable : Nat := 0xAC00

/-- The syllable of three letters by their numbers, zero being the last letter that is not there. -/
def syllable (initial vowel final : Nat) : CodePoint :=
  CodePoint.ofNat (firstSyllable + initial * 588 + vowel * 28 + final)

/-! ### Spelled syllables -/

/-- The numbers of the letters, as initials and as finals; 99 stands for none. -/
def initials : List Nat := [
  0, 1, 99, 2, 99, 99, 3, 4, 5, 99, 99, 99, 99, 99, 99, 99, 6, 7, 8, 99, 9, 10, 11, 12, 13, 14, 15,
  16, 17, 18]

def finals : List Nat := [
  1, 2, 3, 4, 5, 6, 7, 99, 8, 9, 10, 11, 12, 13, 14, 15, 16, 17, 99, 18, 19, 20, 21, 22, 99, 23, 24,
  25, 26, 27]

/-- The number of a letter in one of the lists. -/
def letter? (numbers : List Nat) (b : UInt8) : Option Nat :=
  if b.toNat < 0xA1 then none else (numbers[b.toNat - 0xA1]?).filter (· ≠ 99)

/-- The syllable that a filler and three letters spell, each by its code. -/
def spelled? (bytes : Bytes) : Option CodePoint :=
  match bytes with
  | [0xA4, i, 0xA4, v, 0xA4, f] => do
    let initial ← letter? initials i
    let vowel ← if 0xBF ≤ v.toNat ∧ v.toNat ≤ 0xD3 then some (v.toNat - 0xBF) else none
    let final ← if f = 0xD4 then some 0 else letter? finals f
    return syllable initial vowel final
  | _ => none

def nextEucKr (a : UInt8) (rest : Bytes) : Code.Piece :=
  if a = 0xA4 ∧ rest.head? = some 0xD4 then
    if rest.length < 7 then .cutShort else .ofPoint 8 1 (spelled? ((rest.drop 1).take 6))
  else Code.asciiOrDouble (Code.onePoint ksx1001?) a rest

/-! ### Other syllables in between -/

/-- Whether the set has each syllable, in order. -/
def syllableMarks : Array Bool :=
  CodeTable.ksx1001.rows.foldl (fun marks (_, _, cells) =>
    (text cells).foldl (fun marks c =>
      if firstSyllable ≤ c.val then marks.setIfInBounds (c.val - firstSyllable) true else marks)
      marks) (Array.replicate 11172 false)

/-- The syllables that the set does not have, in order. -/
def otherSyllables : Array Nat :=
  ((Array.range 11172).filter fun i => !(syllableMarks[i]?).getD true).map (firstSyllable + ·)

/-- The place of a code among those of the other syllables, which stand below the rows of the set
and before the cells of some. -/
def otherIndex? (a b : Nat) : Option Nat :=
  let cell? :=
    if 0x41 ≤ b ∧ b ≤ 0x5A then some (b - 0x41)
    else if 0x61 ≤ b ∧ b ≤ 0x7A then some (b - 0x61 + 26)
    else if 0x81 ≤ b ∧ b ≤ 0xFE then some (b - 0x81 + 52)
    else none
  cell?.bind fun cell =>
    if 0x81 ≤ a ∧ a ≤ 0xA0 then some ((a - 0x81) * 178 + cell)
    else if 0xA1 ≤ a ∧ cell < 84 then some (32 * 178 + (a - 0xA1) * 84 + cell)
    else none

def cp949? (a b : Nat) : Option CodePoint :=
  (ksx1001? a b).or
    ((otherIndex? a b).bind fun i => (otherSyllables[i]?).map CodePoint.ofNat)

/-! ### Letters of each syllable -/

/-- A letter of a syllable: none at all, or its number and, standing alone, its code point. -/
inductive Letter
  | filler
  | letter (number alone : Nat)
deriving DecidableEq

/-- The letters of the five bits of an initial, behind the first two. -/
def johabInitials : List Nat := [
  0x3131, 0x3132, 0x3134, 0x3137, 0x3138, 0x3139, 0x3141, 0x3142, 0x3143, 0x3145, 0x3146, 0x3147,
  0x3148, 0x3149, 0x314A, 0x314B, 0x314C, 0x314D, 0x314E]

/-- The five bits of each vowel in order. -/
def johabVowels : List Nat := [
  3, 4, 5, 6, 7, 10, 11, 12, 13, 14, 15, 18, 19, 20, 21, 22, 23, 26, 27, 28, 29]

/-- The letters of the five bits of a final, behind the first two; there is none of eighteen. -/
def johabFinals : List Nat := [
  0x3131, 0x3132, 0x3133, 0x3134, 0x3135, 0x3136, 0x3137, 0x3139, 0x313A, 0x313B, 0x313C, 0x313D,
  0x313E, 0x313F, 0x3140, 0x3141, 0, 0x3142, 0x3144, 0x3145, 0x3146, 0x3147, 0x3148, 0x314A, 0x314B,
  0x314C, 0x314D, 0x314E]

def johabInitial? (bits : Nat) : Option Letter :=
  if bits = 1 then some .filler
  else if bits < 2 then none
  else (johabInitials[bits - 2]?).map (.letter (bits - 2))

def johabVowel? (bits : Nat) : Option Letter :=
  if bits = 2 then some .filler
  else (johabVowels.findIdx? (· = bits)).map fun i => .letter i (0x314F + i)

def johabFinal? (bits : Nat) : Option Letter :=
  if bits = 1 then some .filler
  else if bits < 2 ∨ bits = 18 then none
  else (johabFinals[bits - 2]?).map (.letter (if bits < 18 then bits - 1 else bits - 2))

/-- What three letters are together: a syllable, or one letter alone. -/
def join? : Letter → Letter → Letter → Option CodePoint
  | .letter i _, .letter v _, .letter f _ => some (syllable i v f)
  | .letter i _, .letter v _, .filler => some (syllable i v 0)
  | .letter _ alone, .filler, .filler => some (CodePoint.ofNat alone)
  | .filler, .letter _ alone, .filler => some (CodePoint.ofNat alone)
  | .filler, .filler, .letter _ alone => some (CodePoint.ofNat alone)
  | .filler, .filler, .filler => some (CodePoint.ofNat 0x3000)
  | _, _, _ => none

/-- The row and the cell of a code for what is no syllable. -/
def johabCell? (a b : Nat) : Option (Nat × Nat) :=
  if a = 0xD8 ∨ a = 0xDF ∨ 0xF9 < a ∨ b < 0x31 ∨ 0x80 ≤ b ∧ b < 0x91 ∨ b % 0x80 = 0x7F ∨
      a = 0xDA ∧ 0xA1 ≤ b ∧ b ≤ 0xD3 then none
  else
    let row := if a < 0xE0 then 2 * (a - 0xD9) else 2 * a - 0x197
    let cell := if b < 0x91 then b - 0x31 else b - 0x43
    some (row + cell / 94 + 0x21, cell % 94 + 0x21)

def johab? (a b : Nat) : Option CodePoint :=
  if a < 0xD8 then do
    let initial ← johabInitial? (a / 4 % 32)
    let vowel ← johabVowel? (a % 4 * 8 + b / 32)
    let final ← johabFinal? (b % 32)
    join? initial vowel final
  else (johabCell? a b).bind fun (row, cell) => CodeTable.ksx1001.find? row cell

end Korean

end CompletionWire
