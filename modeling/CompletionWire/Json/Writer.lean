import CompletionWire.Decimal.Layout
import CompletionWire.Json.Value

/-!
# Writing JSON

One writer serves three styles: one line of ASCII, an indented document of ASCII, and the compact
text that goes on the wire. A style says what stands between items, how deep a new line is indented,
and which code points are escaped. A strict writer refuses numbers that are not finite, and whole
numbers and nesting beyond its limits; it reports the first of these that it comes to.
-/

namespace CompletionWire

namespace Json

/-- How a value is laid out. -/
structure Style where
  comma : Text
  colon : Text
  indent? : Option Nat
  asciiOnly : Bool

namespace Style

/-- One line of ASCII with blanks behind commas and colons. -/
def spaced : Style := ⟨text ", ", text ": ", none, true⟩

/-- One line without blanks, in which only what must be escaped is. -/
def compact : Style := ⟨text ",", text ":", none, false⟩

/-- One line of ASCII without blanks. -/
def compactAscii : Style := ⟨text ",", text ":", none, true⟩

/-- A document of ASCII with every item on a line of its own. -/
def indented : Style := ⟨text ",", text ": ", some 2, true⟩

/-- The line end and indentation before what stands at a nesting level, if the style has lines. -/
def breakLine (style : Style) (level : Nat) : Text :=
  match style.indent? with
  | none => []
  | some width => CodePoint.ofChar '\n' :: List.replicate (width * level) (CodePoint.ofChar ' ')

end Style

/-! ### Strings -/

def unicodeEscape (c : CodePoint) : Text := text "\\u" ++ Text.hex 4 c.val

/-- The letter that a control character is escaped with, if it has one. -/
def escapeLetter? (c : CodePoint) : Option Char :=
  if c.val = 8 then some 'b'
  else if c.val = 9 then some 't'
  else if c.val = 10 then some 'n'
  else if c.val = 12 then some 'f'
  else if c.val = 13 then some 'r'
  else none

/-- How a code point is written inside a string. -/
def writeCodePoint (asciiOnly : Bool) (c : CodePoint) : Text :=
  if c.val = 0x22 ∨ c.val = 0x5C then [CodePoint.ofChar '\\', c]
  else
    match escapeLetter? c with
    | some letter => [CodePoint.ofChar '\\', CodePoint.ofChar letter]
    | none =>
      if c.val < 0x20 then unicodeEscape c
      else if !asciiOnly || c.val < 0x7F then [c]
      else if c.val < 0x10000 then unicodeEscape c
      else unicodeEscape c.splitSurrogates.1 ++ unicodeEscape c.splitSurrogates.2

def writeString (asciiOnly : Bool) (s : Text) : Text :=
  text "\"" ++ s.flatMap (writeCodePoint asciiOnly) ++ text "\""

/-! ### Values -/

/-- Written items between their brackets, each on its line if the style has lines. -/
def enclose (style : Style) (level : Nat) (opening closing : Char) (items : List Text) : Text :=
  CodePoint.ofChar opening ::
    (if items.isEmpty then [CodePoint.ofChar closing]
      else
        let inner := style.breakLine (level + 1)
        inner ++ (style.comma ++ inner).intercalate items ++ style.breakLine level ++
          [CodePoint.ofChar closing])

mutual

/-- A value as it stands at a nesting level. -/
def writeAt (style : Style) (level : Nat) : Json → Text
  | .null => text "null"
  | .bool b => if b then text "true" else text "false"
  | .int n => Text.ofInt n
  | .float x => x.write .long
  | .string s => writeString style.asciiOnly s
  | .array items => enclose style level '[' ']' (writeItems style (level + 1) items)
  | .object members => enclose style level '\x7b' '\x7d' (writeMembers style (level + 1) members)

def writeItems (style : Style) (level : Nat) : List Json → List Text
  | [] => []
  | v :: rest => writeAt style level v :: writeItems style level rest

def writeMembers (style : Style) (level : Nat) : List (Text × Json) → List Text
  | [] => []
  | (k, v) :: rest =>
    (writeString style.asciiOnly k ++ style.colon ++ writeAt style level v) ::
      writeMembers style level rest

end

def write (style : Style) (v : Json) : Text := writeAt style 0 v

/-! ### Limits -/

/-- How much a strict writer writes. -/
structure Limits where
  /-- The most digits of a whole number. -/
  maxDigits : Nat
  /-- How deep arrays and objects may nest. -/
  maxDepth : Nat

/-- Why a value is not written. -/
inductive WriteFault
  | notFinite
  | tooManyDigits
  | tooDeep
deriving DecidableEq

mutual

/-- The values that a value consists of, in the order in which they are written, each with the
number of arrays and objects around it. -/
def placed (level : Nat) : Json → List (Nat × Json)
  | .array items => (level, .array items) :: placedItems (level + 1) items
  | .object members => (level, .object members) :: placedMembers (level + 1) members
  | v => [(level, v)]

def placedItems (level : Nat) : List Json → List (Nat × Json)
  | [] => []
  | v :: rest => placed level v ++ placedItems level rest

def placedMembers (level : Nat) : List (Text × Json) → List (Nat × Json)
  | [] => []
  | (_, v) :: rest => placed level v ++ placedMembers level rest

end

/-- What is wrong with a value in its place, apart from the values in it. -/
def ownFault? (limits : Limits) : Nat × Json → Option WriteFault
  | (_, .int n) =>
    if limits.maxDigits < (Text.ofNat n.natAbs).length then some .tooManyDigits else none
  | (_, .float x) => if x.isFinite then none else some .notFinite
  | (level, .array _) | (level, .object _) =>
    if limits.maxDepth ≤ level then some .tooDeep else none
  | _ => none

/-- The first thing that keeps a value from being written. -/
def writeFault? (limits : Limits) (v : Json) : Option WriteFault :=
  (v.placed 0).findSome? (ownFault? limits)

end Json

end CompletionWire
