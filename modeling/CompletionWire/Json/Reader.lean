import CompletionWire.Json.Value
import CompletionWire.Text.Newline

/-!
# Reading JSON

The reader works on what remains of the text. Blanks are space, tab, line feed and carriage return;
the last of several members with one key gives its value and the first one its place; an escaped
high surrogate joins an escaped low one directly behind it. A fault carries the text that remained
where it was noticed, which `located` turns into a line and a column.
-/

namespace CompletionWire

namespace Json

/-- Names for numbers that are not finite, which lenient writers use. -/
inductive Constant
  | nan
  | infinity
  | minusInfinity
deriving DecidableEq

def Constant.name : Constant → Text
  | .nan => text "NaN"
  | .infinity => text "Infinity"
  | .minusInfinity => text "-Infinity"

def Constant.value : Constant → Binary64
  | .nan => .nan
  | .infinity => .infinity false
  | .minusInfinity => .infinity true

/-- What a reader accepts beyond the grammar, and how much of it. -/
structure Rules where
  /-- The most digits of a whole number. -/
  maxDigits? : Option Nat
  /-- How deep arrays and objects may nest. -/
  maxDepth : Nat
  /-- Whether the names of numbers that are not finite are read. -/
  constants : Bool

/-- What a text lacks at some place to be JSON. -/
inductive Problem
  | value
  | propertyName
  | colon
  | comma
  | extraData
  | unterminatedString
  | controlCharacter
  | escape
  | unicodeEscape
  | byteOrderMark
deriving DecidableEq

/-- Why a text is not read; `Place` is how the place of a problem is given. -/
inductive Fault (Place : Type)
  | malformed (problem : Problem) (place : Place)
  | tooManyDigits (count : Nat)
  | constant (c : Constant)
  | tooDeep
deriving DecidableEq

/-- A value and the text behind it, or the fault with the text remaining at its place. -/
abbrev Outcome (α : Type) := Except (Fault Text) (α × Text)

namespace Reader

def isJsonBlank (c : CodePoint) : Bool := c.val = 0x20 || c.val = 9 || c.val = 10 || c.val = 13

def skipBlanks (t : Text) : Text := t.dropWhile isJsonBlank

/-! ### Strings -/

/-- The part of a string that has been read, latest first, and an escaped high surrogate that may
still be joined. -/
structure Piece where
  done : Text := []
  high? : Option CodePoint := none

def Piece.flush (p : Piece) : Text :=
  match p.high? with
  | none => p.done
  | some high => high :: p.done

def Piece.push (p : Piece) (c : CodePoint) : Piece := { done := c :: p.flush }

/-- Takes in a code point that was written as an escaped number. -/
def Piece.pushEscaped (p : Piece) (c : CodePoint) : Piece :=
  match p.high? with
  | some high =>
    if c.isLowSurrogate then { done := CodePoint.joinSurrogates high c :: p.done }
    else if c.isHighSurrogate then { done := high :: p.done, high? := some c }
    else p.push c
  | none => if c.isHighSurrogate then { done := p.done, high? := some c } else p.push c

/-- What a single letter behind a backslash stands for. -/
def escaped? (c : CodePoint) : Option CodePoint :=
  if c.val = 0x22 ∨ c.val = 0x5C ∨ c.val = 0x2F then some c
  else if c = CodePoint.ofChar 'b' then some (CodePoint.ofNat 8)
  else if c = CodePoint.ofChar 'f' then some (CodePoint.ofNat 12)
  else if c = CodePoint.ofChar 'n' then some (CodePoint.ofNat 10)
  else if c = CodePoint.ofChar 'r' then some (CodePoint.ofNat 13)
  else if c = CodePoint.ofChar 't' then some (CodePoint.ofNat 9)
  else none

def hexCodePoint? (a b c d : CodePoint) : Option CodePoint := do
  let a ← a.hexValue?
  let b ← b.hexValue?
  let c ← c.hexValue?
  let d ← d.hexValue?
  return CodePoint.ofNat (((a * 16 + b) * 16 + c) * 16 + d)

/-- Reads a string behind its opening quotation mark; `start` is the text from that mark on. An
escaped number needs something behind its four digits. -/
def string (start : Text) (p : Piece) : Text → Outcome Text
  | [] => .error (.malformed .unterminatedString start)
  | c :: rest =>
    if c.val = 0x22 then .ok (p.flush.reverse, rest)
    else if c.val = 0x5C then
      match rest with
      | [] => .error (.malformed .unterminatedString start)
      | e :: behind =>
        if e = CodePoint.ofChar 'u' then
          match behind with
          | h₁ :: h₂ :: h₃ :: h₄ :: next :: later =>
            match hexCodePoint? h₁ h₂ h₃ h₄ with
            | some x => string start (p.pushEscaped x) (next :: later)
            | none => .error (.malformed .unicodeEscape rest)
          | _ => .error (.malformed .unicodeEscape rest)
        else
          match escaped? e with
          | some x => string start (p.push x) behind
          | none => .error (.malformed .escape (c :: rest))
    else if c.val < 0x20 then .error (.malformed .controlCharacter (c :: rest))
    else string start (p.push c) rest

/-! ### Numbers -/

def digitsValue (digits : Text) : Nat := digits.foldl (fun n c => n * 10 + (c.val - 0x30)) 0

/-- The digits at the start of a text, and the rest. -/
def cutDigits (t : Text) : Text × Text :=
  (t.takeWhile CodePoint.isAsciiDigit, t.dropWhile CodePoint.isAsciiDigit)

/-- The digits before the point: a zero alone, or digits that begin with another one. -/
def wholePart? (t : Text) : Option (Text × Text) :=
  match t with
  | [] => none
  | c :: rest =>
    if c.val = 0x30 then some ([c], rest)
    else if c.isAsciiDigit then some (cutDigits t)
    else none

def fractionPart? (t : Text) : Option (Text × Text) :=
  match t with
  | c :: d :: rest =>
    if c = CodePoint.ofChar '.' ∧ d.isAsciiDigit then some (cutDigits (d :: rest)) else none
  | _ => none

def exponentPart? (t : Text) : Option (Int × Text) :=
  match t with
  | [] => none
  | c :: rest =>
    if c.asciiLower = CodePoint.ofChar 'e' then
      let (negative, body) :=
        match rest with
        | s :: body =>
          if s = CodePoint.ofChar '-' then (true, body)
          else if s = CodePoint.ofChar '+' then (false, body)
          else (false, rest)
        | [] => (false, [])
      let (digits, behind) := cutDigits body
      if digits.isEmpty then none
      else some (if negative then -(digitsValue digits : Int) else digitsValue digits, behind)
    else none

/-- The whole number of some digits, if the rules allow as many. -/
def wholeNumber (rules : Rules) (negative : Bool) (digits : Text) : Except (Fault Text) Json :=
  if rules.maxDigits?.any (· < digits.length) then .error (.tooManyDigits digits.length)
  else .ok (.int (if negative then -(digitsValue digits : Int) else digitsValue digits))

/-- Reads a number behind its sign; `start` is the text from the sign on. -/
def unsignedNumber (rules : Rules) (start : Text) (negative : Bool) (t : Text) : Outcome Json :=
  match wholePart? t with
  | none => .error (.malformed .value start)
  | some (whole, afterWhole) =>
    let fraction? := fractionPart? afterWhole
    let (fraction, afterFraction) := fraction?.getD ([], afterWhole)
    let digits := digitsValue (whole ++ fraction)
    match exponentPart? afterFraction with
    | some (e, rest) => .ok (.float (.ofDecimal negative digits (e - fraction.length)), rest)
    | none =>
      if fraction?.isSome then
        .ok (.float (.ofDecimal negative digits (-fraction.length)), afterFraction)
      else (wholeNumber rules negative whole).map (·, afterWhole)

def number (rules : Rules) (t : Text) : Outcome Json :=
  match t with
  | c :: rest =>
    if c = CodePoint.ofChar '-' then unsignedNumber rules t true rest
    else unsignedNumber rules t false t
  | [] => .error (.malformed .value [])

/-! ### Words -/

/-- The values that are written as words. -/
def words : List (Text × Json) :=
  [(text "null", .null), (text "true", .bool true), (text "false", .bool false)]

/-- The word a text begins with, and the rest. -/
def word? (t : Text) : Option (Json × Text) :=
  words.findSome? fun (w, v) => (Text.dropStart? w t).map (v, ·)

/-- The constant a text begins with, and the rest. -/
def constant? (t : Text) : Option (Constant × Text) :=
  [Constant.nan, .infinity, .minusInfinity].findSome? fun c => (Text.dropStart? c.name t).map (c, ·)

/-- A number, a word or a constant. -/
def scalar (rules : Rules) (t : Text) : Outcome Json :=
  match word? t with
  | some found => .ok found
  | none =>
    match constant? t with
    | some (c, rest) => if rules.constants then .ok (.float c.value, rest) else .error (.constant c)
    | none => number rules t

/-! ### Arrays and objects -/

/-- Reads the items of an array, the first of which stands at the start of the text; `done` holds
those before it, latest first. Every item takes a part of the text, so its length bounds their
number. -/
def items (value : Text → Outcome Json) : (bound : Nat) → (done : List Json) → Text → Outcome Json
  | 0, _, _ => .error (.malformed .value [])
  | bound + 1, done, t =>
    match value t with
    | .error fault => .error fault
    | .ok (v, rest) =>
      match skipBlanks rest with
      | [] => .error (.malformed .comma [])
      | c :: behind =>
        if c = CodePoint.ofChar ']' then .ok (.array (v :: done).reverse, behind)
        else if c = CodePoint.ofChar ',' then items value bound (v :: done) (skipBlanks behind)
        else .error (.malformed .comma (c :: behind))

/-- Reads a key and the colon behind it. -/
def key (t : Text) : Outcome Text :=
  match t with
  | [] => .error (.malformed .propertyName [])
  | c :: rest =>
    if c.val = 0x22 then
      match string t {} rest with
      | .error fault => .error fault
      | .ok (k, behind) =>
        match skipBlanks behind with
        | [] => .error (.malformed .colon [])
        | d :: later =>
          if d = CodePoint.ofChar ':' then .ok (k, skipBlanks later)
          else .error (.malformed .colon (d :: later))
    else .error (.malformed .propertyName t)

/-- Reads the members of an object, as `items` does those of an array. -/
def members (value : Text → Outcome Json) : (bound : Nat) → (done : Members) → Text → Outcome Json
  | 0, _, _ => .error (.malformed .propertyName [])
  | bound + 1, done, t =>
    match key t with
    | .error fault => .error fault
    | .ok (k, atValue) =>
      match value atValue with
      | .error fault => .error fault
      | .ok (v, rest) =>
        match skipBlanks rest with
        | [] => .error (.malformed .comma [])
        | c :: behind =>
          if c = CodePoint.ofChar '\x7d' then .ok (.object (done.put k v), behind)
          else if c = CodePoint.ofChar ',' then
            members value bound (done.put k v) (skipBlanks behind)
          else .error (.malformed .comma (c :: behind))

/-- Reads an array behind its opening bracket. -/
def array (value : Text → Outcome Json) (bound : Nat) (t : Text) : Outcome Json :=
  match skipBlanks t with
  | [] => items value bound [] []
  | c :: behind =>
    if c = CodePoint.ofChar ']' then .ok (.array [], behind) else items value bound [] (c :: behind)

def object (value : Text → Outcome Json) (bound : Nat) (t : Text) : Outcome Json :=
  match skipBlanks t with
  | [] => members value bound [] []
  | c :: behind =>
    if c = CodePoint.ofChar '\x7d' then .ok (.object [], behind)
    else members value bound [] (c :: behind)

/-- Reads a value that stands at the start of a text and holds at most `depth` levels of arrays and
objects. -/
def value (rules : Rules) (bound : Nat) : (depth : Nat) → Text → Outcome Json
  | _, [] => .error (.malformed .value [])
  | depth, c :: rest =>
    if c.val = 0x22 then (string (c :: rest) {} rest).map fun (s, behind) => (.string s, behind)
    else if c = CodePoint.ofChar '[' then
      match depth with
      | 0 => .error .tooDeep
      | depth + 1 => array (value rules bound depth) bound rest
    else if c = CodePoint.ofChar '\x7b' then
      match depth with
      | 0 => .error .tooDeep
      | depth + 1 => object (value rules bound depth) bound rest
    else scalar rules (c :: rest)

/-- Reads a whole text, with the text remaining at a fault. -/
def document (rules : Rules) (t : Text) : Except (Fault Text) Json :=
  if t.head? = some (CodePoint.ofNat 0xFEFF) then .error (.malformed .byteOrderMark t)
  else
    match value rules (t.length + 1) rules.maxDepth (skipBlanks t) with
    | .error fault => .error fault
    | .ok (v, rest) =>
      match skipBlanks rest with
      | [] => .ok v
      | extra => .error (.malformed .extraData extra)

end Reader

/-! ### Places -/

/-- A place in a text: lines and columns count from one, offsets from zero. -/
structure Place where
  line : Nat
  column : Nat
  offset : Nat
deriving DecidableEq

/-- The place at which a text still has `remaining` behind it. -/
def Place.before (t remaining : Text) : Place :=
  let read := t.take (t.length - remaining.length)
  { line := read.count .lineFeed + 1
    column := (read.reverse.takeWhile (· ≠ .lineFeed)).length + 1
    offset := read.length }

def Fault.located (t : Text) : Fault Text → Fault Place
  | .malformed problem remaining => .malformed problem (.before t remaining)
  | .tooManyDigits count => .tooManyDigits count
  | .constant c => .constant c
  | .tooDeep => .tooDeep

/-- The value that a text writes. -/
def read (rules : Rules) (t : Text) : Except (Fault Place) Json :=
  (Reader.document rules t).mapError (Fault.located t)

/-! ### Wording -/

def Problem.message : Problem → Text
  | .value => text "Expecting value"
  | .propertyName => text "Expecting property name enclosed in double quotes"
  | .colon => text "Expecting ':' delimiter"
  | .comma => text "Expecting ',' delimiter"
  | .extraData => text "Extra data"
  | .unterminatedString => text "Unterminated string starting at"
  | .controlCharacter => text "Invalid control character at"
  | .escape => text "Invalid \\escape"
  | .unicodeEscape => text "Invalid \\uXXXX escape"
  | .byteOrderMark => text "Unexpected UTF-8 BOM (decode using utf-8-sig)"

def Place.message (p : Place) : Text :=
  text "line " ++ Text.ofNat p.line ++ text " column " ++ Text.ofNat p.column ++ text " (char " ++
    Text.ofNat p.offset ++ text ")"

/-- The wording of a refusal of too many digits, whose number is told if it is known. -/
def digitsMessage (limit : Nat) (count? : Option Nat) : Text :=
  text "Exceeds the limit (" ++ Text.ofNat limit ++
    text " digits) for integer string conversion" ++
    (match count? with
      | some count => text ": value has " ++ Text.ofNat count ++ text " digits"
      | none => []) ++
    text "; use sys.set_int_max_str_digits() to increase the limit"

def Fault.message (rules : Rules) : Fault Place → Text
  | .malformed problem place => problem.message ++ text ": " ++ place.message
  | .tooManyDigits count => digitsMessage (rules.maxDigits?.getD 0) (some count)
  | .constant c => text "non-standard JSON constant " ++ c.name
  | .tooDeep => []

end Json

end CompletionWire
