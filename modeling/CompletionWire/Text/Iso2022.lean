import CompletionWire.Text.CodePage.Iso
import CompletionWire.Text.DoubleByte.Gb2312
import CompletionWire.Text.DoubleByte.Ksx1001
import CompletionWire.Text.Japanese

/-!
# ISO 2022

Texts in bytes below 0x80 that escape sequences give a meaning to. An escape sequence designates a
set of codes to one of three places; which place the bytes are read from is told by a shift in and
out, and by an escape of its own for the third. What begins with an escape and is no such sequence
stands for itself, up to the letter that ends it.
-/

namespace CompletionWire

namespace Iso2022

/-- A set of codes that can be designated. -/
inductive CodeSet
  | ascii
  | roman
  | katakana
  | latin
  | greek
  | jis0208
  | jis0212
  | firstPlane (edition : Japanese.Edition)
  | secondPlane
  | ksx1001
  | gb2312
deriving DecidableEq

namespace CodeSet

/-- How many bytes a code has. -/
def width : CodeSet → Nat
  | ascii | roman | katakana | latin | greek => 1
  | _ => 2

/-- What a code of a set stands for; the two sets of the third place have none outside of it. The
tilde of the second Japanese set is that of ASCII. -/
def text? (a b : Nat) : CodeSet → Option Text
  | ascii => some [CodePoint.ofNat a]
  | roman => (Japanese.roman? a).map ([·])
  | katakana => (Japanese.katakana? (a + 0x80)).map ([·])
  | latin | greek => none
  | jis0208 => (CodeTable.jis0208.find? a b).map ([·])
  | jis0212 => (CodeTable.jis0212.find? a b).map ([·])
  | firstPlane edition =>
    if a = 0x22 ∧ b = 0x32 then some (text "~") else Japanese.firstPlane? edition a b
  | secondPlane => (Japanese.secondPlane? .later a b).map ([·])
  | ksx1001 => (CodeTable.ksx1001.find? a b).map ([·])
  | gb2312 => (CodeTable.gb2312.find? a b).map ([·])

end CodeSet

/-- A form of such texts: which sets it has, each with the end of the sequence that designates it,
and whether it has shifts and a third place. -/
structure Form where
  single : List (Char × CodeSet)
  double : List (Char × CodeSet)
  hasShift : Bool := false
  hasThird : Bool := false

/-- What has been designated, and how the next byte is read. -/
structure State where
  first : CodeSet := .ascii
  second : CodeSet := .ascii
  third : CodeSet := .ascii
  shifted : Bool := false
  inEscape : Bool := false
deriving DecidableEq

/-! ### Escape sequences -/

def esc : UInt8 := 0x1B

/-- Whether a byte ends an escape sequence. -/
def isFinal (b : UInt8) : Bool := (0x41 ≤ b.toNat && b.toNat ≤ 0x5A) || b = 0x40

/-- The size of the escape sequence whose first bytes are those before `i`: none if the bytes end
first, and zero if it is too long. A sequence may hold one that only tells which version of the
first Japanese set follows. -/
def sequenceSize? (versions : Bool) (bytes : Bytes) (i : Nat) : Option Nat :=
  if _h : i < 16 then
    match bytes.drop i with
    | [] => none
    | b :: rest =>
      if isFinal b then some (i + 1)
      else if versions ∧ b = 0x26 ∧ rest.head? = some 0x40 then sequenceSize? versions bytes (i + 3)
      else sequenceSize? versions bytes (i + 1)
  else some 0
termination_by 16 - i

/-- The set of a form by the end of its sequence. -/
def Form.set? (form : Form) (double : Bool) (last : UInt8) : Option CodeSet :=
  if !double ∧ last = 0x42 then some .ascii
  else
    ((if double then form.double else form.single).find? fun (letter, _) =>
      letter.toNat = last.toNat).map (·.2)

/-- The state behind an escape sequence, without the byte that begins it, if it designates a set. -/
def Form.designate? (form : Form) (s : State) : Bytes → Option State
  | [0x28, last] => (form.set? false last).map fun set => { s with first := set }
  | [0x29, last] => (form.set? false last).map fun set => { s with second := set }
  | [0x2E, last] =>
    if form.hasThird then (form.set? false last).map fun set => { s with third := set } else none
  | [0x24, last] => (form.set? true last).map fun set => { s with first := set }
  | [0x24, 0x28, last] => (form.set? true last).map fun set => { s with first := set }
  | [0x24, 0x29, last] => (form.set? true last).map fun set => { s with second := set }
  | [0x26, 0x40, 0x1B, 0x24, 0x42] =>
    if form.hasShift then none
    else (form.set? true 0x42).map fun set => { s with first := set }
  | _ => none

/-- The code point of a byte in the third place; Greek has its older version there. -/
def third? (b : Nat) : CodeSet → Option CodePoint
  | .latin => if b < 0x80 then some (CodePoint.ofNat (b + 0x80)) else none
  | .greek =>
    if 0x80 ≤ b then some (CodePoint.ofNat (b - 0x80))
    else if b ∈ [0x24, 0x25, 0x2A] then none
    else CodePage.greek.codePoint? (b + 0x80)
  | _ => if b < 0x80 then some (CodePoint.ofNat b) else none

/-- Reads what begins with an escape. -/
def Form.nextEscape (form : Form) (s : State) (rest : Bytes) : Code.Piece × State :=
  match rest with
  | [] => (.cutShort, s)
  | b :: more =>
    if b ∈ [0x28, 0x29, 0x24, 0x2E, 0x26] then
      match sequenceSize? (!form.hasShift) (esc :: rest) 1 with
      | none => (.cutShort, s)
      | some 0 => (.wrong 1, s)
      | some size =>
        match form.designate? s (rest.take (size - 1)) with
        | some s => (.code [] size, s)
        | none => (.wrong size, s)
    else if form.hasThird ∧ b = 0x4E then
      match more with
      | [] => (.cutShort, s)
      | c :: _ => (.ofPoint 3 3 (third? c.toNat s.third), s)
    else (Code.single esc, { s with inEscape := true })

/-! ### Reading -/

/-- Reads a code in the place that the state tells. -/
def nextCode (s : State) (a : UInt8) (rest : Bytes) : Code.Piece :=
  let set := if s.shifted then s.second else s.first
  if 0x80 ≤ a.toNat then .wrong 1
  else if rest.length + 1 < set.width then .cutShort
  else .ofText set.width set.width (set.text? a.toNat ((rest.head?.map (·.toNat)).getD 0))

def Form.next (form : Form) (s : State) (a : UInt8) (rest : Bytes) : Code.Piece × State :=
  if s.inEscape then (Code.single a, { s with inEscape := !isFinal a })
  else if a = esc then form.nextEscape s rest
  else if a = 0x0F ∧ form.hasShift then (.code [] 1, { s with shifted := false })
  else if a = 0x0E ∧ form.hasShift then (.code [] 1, { s with shifted := true })
  else if a = 0x0A then (Code.single a, { s with shifted := false })
  else if a.toNat < 0x20 then (Code.single a, s)
  else (nextCode s a rest, s)

/-! ### Forms -/

def korean : Form where
  single := []
  double := [('C', .ksx1001)]
  hasShift := true

def japaneseSets : List (Char × CodeSet) := [('B', .jis0208), ('@', .jis0208)]

def japanese : Form where
  single := [('J', .roman)]
  double := japaneseSets

def japaneseSupplement : Form where
  single := [('J', .roman)]
  double := japaneseSets ++ [('D', .jis0212)]

def japaneseManyScripts : Form where
  single := [('J', .roman), ('A', .latin), ('F', .greek)]
  double := japaneseSets ++ [('D', .jis0212), ('C', .ksx1001), ('A', .gb2312)]
  hasThird := true

def japaneseKatakana : Form where
  single := [('J', .roman), ('I', .katakana)]
  double := japaneseSets ++ [('D', .jis0212)]

def japanesePlanes (letter : Char) (edition : Japanese.Edition) : Form where
  single := []
  double := [('B', .jis0208), (letter, .firstPlane edition), ('P', .secondPlane)]

end Iso2022

end CompletionWire
