import CompletionWire.Text.Composed
import CompletionWire.Text.Direction
import CompletionWire.Text.Joining
import CompletionWire.Text.NameLetter
import CompletionWire.Text.Quoted
import CompletionWire.Text.Script

/-!
# Labels

A label of a host name holds letters, digits, marks and hyphens of any script in composed form. A
few code points more may stand where their neighbours call for them, and a label with letters
written from right to left keeps to an order of directions in which it can be shown without doubt.
-/

namespace CompletionWire

/-- What is wrong with the directions of a label. -/
inductive DirectionFault
  | unknown (label : Text) (position : Nat)
  | start (label : Text)
  | inRightToLeft (position : Nat)
  | inLeftToRight (position : Nat)
  | mixedDigits
  | ending
deriving DecidableEq

/-- Why a label cannot stand in a host name; positions are counted from one. -/
inductive LabelFault
  | empty
  | notComposed
  | reservedHyphens
  | outerHyphen
  | leadingMark
  | codePoint (c : CodePoint) (position : Nat) (label : Text)
  | joiner (c : CodePoint) (position : Nat) (label : Text)
  | context (c : CodePoint) (position : Nat) (label : Text)
  | direction (fault : DirectionFault)
deriving DecidableEq

def DirectionFault.message : DirectionFault → Text
  | unknown label position =>
    text "Unknown directionality in label " ++ label.quoted ++ text " at position " ++
      Text.ofNat position
  | start label =>
    text "First codepoint in label " ++ label.quoted ++ text " must be directionality L, R or AL"
  | inRightToLeft position =>
    text "Invalid direction for codepoint at position " ++ Text.ofNat position ++
      text " in a right-to-left label"
  | inLeftToRight position =>
    text "Invalid direction for codepoint at position " ++ Text.ofNat position ++
      text " in a left-to-right label"
  | mixedDigits => text "Can not mix numeral types in a right-to-left label"
  | ending => text "Label ends with illegal codepoint directionality"

/-- The number of a code point behind `U+`, with four digits at least. -/
def CodePoint.numberText (c : CodePoint) : Text :=
  text "U+" ++ (Text.hex (max 4 (Nat.toDigits 16 c.val).length) c.val).map CodePoint.asciiUpper

def LabelFault.message : LabelFault → Text
  | empty => text "Empty Label"
  | notComposed => text "Label must be in Normalization Form C"
  | reservedHyphens => text "Label has disallowed hyphens in 3rd and 4th position"
  | outerHyphen => text "Label must not start or end with a hyphen"
  | leadingMark => text "Label begins with an illegal combining character"
  | codePoint c position label =>
    text "Codepoint " ++ c.numberText ++ text " at position " ++ Text.ofNat position ++
      text " of " ++ label.quoted ++ text " not allowed"
  | joiner c position label =>
    text "Unknown codepoint adjacent to joiner " ++ c.numberText ++ text " at position " ++
      Text.ofNat position ++ text " in " ++ label.quoted
  | context c position label =>
    text "Codepoint " ++ c.numberText ++ text " not allowed at position " ++
      Text.ofNat position ++ text " in " ++ label.quoted
  | direction fault => fault.message

namespace Label

def hyphen : CodePoint := CodePoint.ofChar '-'

/-! ### Code points that depend on their neighbours -/

def isJoiner (c : CodePoint) : Bool := c.val = 0x200C || c.val = 0x200D

/-- Whether the last letter has lost its vowel; `before` is held nearest first. -/
def followsVirama (before : Text) : Bool := before.head?.any (·.combiningClass = 9)

/-- Whether a joiner stands where it makes a difference: behind a letter without its vowel, or, if
it keeps letters apart, between two letters that would join. -/
def joinerFits (before : Text) (c : CodePoint) (after : Text) : Bool :=
  followsVirama before ||
    c.val = 0x200C && before.head?.all (·.direction?.isSome) &&
      (before.dropWhile (·.isTransparent)).head?.any (·.joinsNext) &&
      (after.dropWhile (·.isTransparent)).head?.any (·.joinsPrevious)

def isArabicDigit (c : CodePoint) : Bool := 0x660 ≤ c.val && c.val ≤ 0x669

def isPersianDigit (c : CodePoint) : Bool := 0x6F0 ≤ c.val && c.val ≤ 0x6F9

def middleDot : CodePoint := ⟨0xB7, by decide⟩

def greekNumeralSign : CodePoint := ⟨0x375, by decide⟩

def katakanaMiddleDot : CodePoint := ⟨0x30FB, by decide⟩

def isHebrewPunctuation (c : CodePoint) : Bool := c.val = 0x5F3 || c.val = 0x5F4

def dependsOnContext (c : CodePoint) : Bool :=
  c = middleDot || c = greekNumeralSign || isHebrewPunctuation c || c = katakanaMiddleDot ||
    isArabicDigit c || isPersianDigit c

/-- Whether a code point stands where it belongs: a middle dot between two l, a Greek numeral sign
before Greek, Hebrew punctuation behind Hebrew, a Katakana middle dot in a Japanese label, and
digits in a label without their other forms. -/
def contextFits (before : Text) (c : CodePoint) (after : Text) : Bool :=
  if c = middleDot then
    before.head? = some (CodePoint.ofChar 'l') && after.head? = some (CodePoint.ofChar 'l')
  else if c = greekNumeralSign then after.head?.any (·.isGreek)
  else if isHebrewPunctuation c then before.head?.any (·.isHebrew)
  else if c = katakanaMiddleDot then
    (before ++ after).any fun d => d ≠ katakanaMiddleDot && d.isJapanese
  else if isArabicDigit c then !(before ++ after).any isPersianDigit
  else !(before ++ after).any isArabicDigit

/-- The first fault of a code point in what stands behind `before`, which is held nearest first. -/
def codePointFault? (label before : Text) : (rest : Text) → Option LabelFault
  | [] => none
  | c :: rest =>
    let position := before.length + 1
    if c.isNameLetter then codePointFault? label (c :: before) rest
    else if isJoiner c then
      if joinerFits before c rest then codePointFault? label (c :: before) rest
      else some (.joiner c position label)
    else if dependsOnContext c then
      if contextFits before c rest then codePointFault? label (c :: before) rest
      else some (.context c position label)
    else some (.codePoint c position label)

/-! ### Directions -/

/-- The directions of a label's code points, or the first position where it is not known. -/
def directions (label : Text) : Except DirectionFault (List Direction) :=
  match label.findIdx? (·.direction?.isNone) with
  | some i => .error (.unknown label (i + 1))
  | none => .ok (label.filterMap (·.direction?))

def isDigitDirection (d : Direction) : Bool := d = .digit || d = .arabicDigit

/-- The first fault behind `position` code points of a right-to-left label; `digits?` is the
direction of the digits met so far. -/
def rightToLeftFault? (position : Nat) (digits? : Option Direction) :
    List Direction → Option DirectionFault
  | [] => none
  | d :: rest =>
    if d = .leftToRight then some (.inRightToLeft (position + 1))
    else if isDigitDirection d then
      if digits?.any (· ≠ d) then some .mixedDigits
      else rightToLeftFault? (position + 1) (some d) rest
    else rightToLeftFault? (position + 1) digits? rest

/-- The first code point of a left-to-right label that runs the other way. -/
def leftToRightFault? (ds : List Direction) : Option DirectionFault :=
  (ds.findIdx? fun d => d = .rightToLeft || d = .arabicDigit).map fun i => .inLeftToRight (i + 1)

/-- Whether a label ends in one of some directions, marks apart. -/
def endsIn (allowed : List Direction) (ds : List Direction) : Bool :=
  ((ds.reverse.dropWhile (· = .mark)).head?).any allowed.contains

/-- What is wrong with the directions of a label in which some code point runs from right to
left. -/
def directionFault? (label : Text) (ds : List Direction) : Option DirectionFault :=
  match ds.head? with
  | some .rightToLeft =>
    (rightToLeftFault? 0 none ds).or
      (if endsIn [.rightToLeft, .digit, .arabicDigit] ds then none else some .ending)
  | some .leftToRight =>
    (leftToRightFault? ds).or (if endsIn [.leftToRight, .digit] ds then none else some .ending)
  | _ => some (.start label)

/-- Checks the directions of a label; where nothing runs from right to left, any order will do. -/
def checkDirections (label : Text) : Except DirectionFault Unit := do
  let ds ← directions label
  if ds.any fun d => d = .rightToLeft || d = .arabicDigit then
    match directionFault? label ds with
    | some fault => throw fault
    | none => return
  else return

/-! ### All rules -/

/-- Checks a label against all rules. -/
def check (label : Text) : Except LabelFault Unit :=
  if label.isEmpty then .error .empty
  else if !label.isComposed then .error .notComposed
  else if (label.drop 2).take 2 = [hyphen, hyphen] then .error .reservedHyphens
  else if label.head? = some hyphen || label.getLast? = some hyphen then .error .outerHyphen
  else if label.head?.any (·.isMark) then .error .leadingMark
  else
    match codePointFault? label [] label with
    | some fault => .error fault
    | none => (checkDirections label).mapError .direction

end Label

end CompletionWire
