import CompletionWire.Text.Code
import CompletionWire.Text.DoubleByte.Big5
import CompletionWire.Text.DoubleByte.Big5Windows
import CompletionWire.Text.DoubleByte.Gb2312
import CompletionWire.Text.DoubleByte.GbExtension
import CompletionWire.Text.DoubleByte.HongKong

/-!
# Chinese charsets

Simplified Chinese has GB 2312, GBK, which adds all hanzi of its time, and GB 18030, which adds
codes of four bytes for everything else; HZ writes GB 2312 in ASCII. Traditional Chinese has Big5 in
three forms.
-/

namespace CompletionWire

namespace Chinese

/-! ### GB 2312 and GBK -/

def gb2312? (a b : Nat) : Option CodePoint := CodeTable.gb2312.findHigh? a b

/-- The first and the last hanzi that GBK has a code for, certain ones apart. -/
def firstHanzi : Nat := 0x4E00

def lastHanzi : Nat := 0x9FA5

/-- Whether GB 2312 has each hanzi, in order. -/
def hanziMarks : Array Bool :=
  CodeTable.gb2312.rows.foldl (fun marks (_, _, cells) =>
    (text cells).foldl (fun marks c =>
      if firstHanzi ≤ c.val ∧ c.val ≤ lastHanzi then marks.setIfInBounds (c.val - firstHanzi) true
      else marks) marks) (Array.replicate (lastHanzi - firstHanzi + 1) false)

/-- The hanzi that GB 2312 does not have, in order. -/
def otherHanzi : Array Nat :=
  ((Array.range (lastHanzi - firstHanzi + 1)).filter fun i => !(hanziMarks[i]?).getD true).map
    (firstHanzi + ·)

/-- The place of a code among those of the other hanzi, which fill the rows below GB 2312 and then
what is left of rows above. -/
def otherHanziIndex? (a b : Nat) : Option Nat :=
  if b < 0x40 ∨ b = 0x7F ∨ b = 0xFF then none
  else
    let cell := if b < 0x7F then b - 0x40 else b - 0x41
    if 0x81 ≤ a ∧ a ≤ 0xA0 then some ((a - 0x81) * 190 + cell)
    else if 0xAA ≤ a ∧ a ≤ 0xFE ∧ cell < 96 then some (32 * 190 + (a - 0xAA) * 96 + cell)
    else none

def otherHanzi? (a b : Nat) : Option CodePoint :=
  (otherHanziIndex? a b).bind fun i => (otherHanzi[i]?).map CodePoint.ofNat

def gbk? (a b : Nat) : Option CodePoint :=
  (CodeTable.gbkSigns.find? a b).or ((gb2312? a b).or (otherHanzi? a b))

/-! ### GB 18030 -/

/-- The code point of a later code of two bytes. -/
def later? (a b : Nat) : Option CodePoint :=
  (CodeTable.gb18030Runs.find? fun (lead, first, last, _) =>
    lead = a ∧ first ≤ b ∧ b ≤ last ∧ b ≠ 0x7F).map fun (_, first, _, start) =>
      CodePoint.ofNat (start + (b - first) - if first < 0x7F ∧ 0x7F < b then 1 else 0)

/-- The code point of a code of four bytes by its number. -/
def ofNumber? (n : Nat) : Option CodePoint :=
  if n < 39420 then
    (CodeTable.gb18030Bases.find? (·.1 ≤ n)).map fun (base, start) =>
      CodePoint.ofNat (start + (n - base))
  else if 189000 ≤ n ∧ n - 189000 + 0x10000 < 0x110000 then
    some (CodePoint.ofNat (n - 189000 + 0x10000))
  else none

def isDigit (b : Nat) : Bool := 0x30 ≤ b && b ≤ 0x39

def isLead (b : Nat) : Bool := 0x81 ≤ b && b ≤ 0xFE

/-- The code point of a code of four bytes, in turn one of 126 and one of ten. -/
def four? (a b c d : Nat) : Option CodePoint :=
  if isLead a && isLead c && isDigit d then
    ofNumber? ((((a - 0x81) * 10 + (b - 0x30)) * 126 + (c - 0x81)) * 10 + (d - 0x30))
  else none

def nextGb18030 (a : UInt8) (rest : Bytes) : Code.Piece :=
  if a.toNat < 0x80 then Code.single a
  else
    match rest with
    | [] => .cutShort
    | b :: rest =>
      if isDigit b.toNat then
        match rest with
        | c :: d :: _ => .ofPoint 4 1 (four? a.toNat b.toNat c.toNat d.toNat)
        | _ => .cutShort
      else .ofPoint 2 1 ((gbk? a.toNat b.toNat).or (later? a.toNat b.toNat))

/-! ### HZ -/

/-- A tilde and a brace switch between ASCII and codes of two bytes below 0x80, and a tilde at the
end of a line hides it; `chinese` says which of the two is on. -/
def nextHz (chinese : Bool) (a : UInt8) (rest : Bytes) : Code.Piece × Bool :=
  if a = 0x7E then
    match rest with
    | [] => (.cutShort, chinese)
    | b :: _ =>
      if b = 0x7E ∧ !chinese then (.code [CodePoint.ofChar '~'] 2, false)
      else if b = 0x7B ∧ !chinese then (.code [] 2, true)
      else if b = 0x0A ∧ !chinese then (.code [] 2, false)
      else if b = 0x7D ∧ chinese then (.code [] 2, false)
      else (.wrong 1, chinese)
  else if 0x80 ≤ a.toNat then (.wrong 1, chinese)
  else if chinese then (Code.double (Code.onePoint CodeTable.gb2312.find?) a rest, true)
  else (Code.single a, false)

/-! ### Big5 -/

def big5? (a b : Nat) : Option CodePoint := CodeTable.big5.find? a b

def cp950? (a b : Nat) : Option CodePoint := (CodeTable.cp950.find? a b).or (big5? a b)

/-- Whether Hong Kong has its own use for a code. -/
def isHongKong (a b : Nat) : Bool := 0xC6 ≤ a && a ≤ 0xC8 && (0xC7 ≤ a || 0xA1 ≤ b)

def hongKong? (a b : Nat) : Option Text :=
  let one? := (if isHongKong a b then none else big5? a b).or (CodeTable.hongKong.find? a b)
  (one?.map ([·])).or (CodeTable.pair? CodeTable.hongKongPairs a b)

end Chinese

end CompletionWire
