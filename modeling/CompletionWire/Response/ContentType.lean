import CompletionWire.Mishap
import CompletionWire.Text.Blank
import CompletionWire.Text.Charset
import CompletionWire.Text.Quoted

/-!
# Content types

A content type has parameters behind semicolons, one of which may name the charset of a response. A
long value may come in segments that are to be joined by their numbers, and a value may have percent
escapes, with its own charset and language in front of it. All segments are numbered and put in
order before any parameter is looked up. The charset that is named at last is used if it is known,
and UTF-8 otherwise.
-/

namespace CompletionWire

namespace ContentType

def semicolon : CodePoint := CodePoint.ofChar ';'

def star : CodePoint := CodePoint.ofChar '*'

/-! ### Parameters -/

/-- Whether a quotation is open at the end of a text; a mark behind a backslash does not count. -/
def isOpen (t : Text) : Bool :=
  ((semicolon :: t).zip t).countP
    (fun (before, c) => c = Text.doubleQuote && before ≠ Text.backslash) % 2 = 1

/-- The pieces between semicolons, those in quotations apart. -/
def pieces (t : Text) : List Text :=
  ((Text.splitOn semicolon t).foldl (fun found piece =>
    match found with
    | [] => [piece]
    | last :: before =>
      if isOpen last then (last ++ semicolon :: piece) :: before else piece :: found) []).reverse

/-- A piece as the name of a parameter and its value. A name is put in small letters if a value
stands behind it. -/
def parameter (piece : Text) : Text × Text :=
  match Text.cutAt (CodePoint.ofChar '=') piece with
  | (name, some value) => (name.trim.map CodePoint.asciiLower, value.trim)
  | (name, none) => (name.trim, [])

/-- The names and values in a content type, in order. -/
def listed (contentType : Text) : List (Text × Text) := (pieces contentType).map parameter

/-- Whether a parameter stands under a name in small letters. -/
def isNamed (name : Text) (p : Text × Text) : Bool := p.1.map CodePoint.asciiLower = name

/-- Replaces every pair of code points by one. -/
def replacePairs (a b replacement : CodePoint) : Text → Text
  | c :: d :: rest =>
    if c = a ∧ d = b then replacement :: replacePairs a b replacement rest
    else c :: replacePairs a b replacement (d :: rest)
  | t => t

/-- A value without quotation marks or angle brackets around it, and without the backslashes that
quotation calls for. -/
def unquote (t : Text) : Text :=
  let isBetween (first last : Char) : Bool :=
    1 < t.length && t.head? = some (CodePoint.ofChar first) &&
      t.getLast? = some (CodePoint.ofChar last)
  let inside := (t.drop 1).dropLast
  if isBetween '"' '"' then
    replacePairs Text.backslash Text.doubleQuote Text.doubleQuote
      (replacePairs Text.backslash Text.backslash Text.backslash inside)
  else if isBetween '<' '>' then inside
  else t

/-! ### Segments -/

/-- A segment of a value: its number if it has one, and whether it has percent escapes. -/
structure Segment where
  number? : Option Nat
  value : Text
  isEscaped : Bool

def isStemLetter (c : CodePoint) : Bool :=
  c.isAsciiDigit || c.isWithin [(0x41, 0x5A), (0x5F, 0x5F), (0x61, 0x7A)]

/-- A name that marks a segment: the name in front of the star, the digits behind it, and whether
another star or none of them ends it. -/
def marked? (name : Text) : Option (Text × Text × Bool) :=
  let stem := name.takeWhile isStemLetter
  (Text.dropStart? (stem ++ [star]) name).bind fun rest =>
    let digits := rest.takeWhile CodePoint.isAsciiDigit
    let tail := rest.drop digits.length
    if stem.isEmpty then none
    else if tail.isEmpty then some (stem, digits, digits.isEmpty)
    else if tail = [star] && !digits.isEmpty then some (stem, digits, true)
    else none

/-- The number that digits write, if there are any. -/
def number? (digits : Text) : Except Mishap (Option Nat) :=
  if digits.isEmpty then .ok none
  else if Numeral.maxDigits < digits.length then
    .error (.rejection (.tooManyDigits (some digits.length)))
  else .ok (some (digits.foldl (fun n c => n * 10 + (c.val - 0x30)) 0))

/-- The segment that a parameter is, if it is one, and the name that it stands under. -/
def segment? (p : Text × Text) : Except Mishap (Option (Text × Segment)) :=
  match marked? p.1 with
  | none => .ok none
  | some (stem, digits, isEscaped) =>
    (number? digits).map fun number? => some (stem, ⟨number?, unquote p.2, isEscaped⟩)

/-- Whether a segment comes before another one: by number, then value, then escapes. -/
def Segment.precedes (a b : Segment) : Bool :=
  let values := compare (a.value.map (·.val)) (b.value.map (·.val))
  match compare (a.number?.getD 0) (b.number?.getD 0) with
  | .lt => true
  | .gt => false
  | .eq => values = .lt || values = .eq && (!a.isEscaped || b.isEscaped)

/-- Percent escapes become the code points of their numbers. -/
def unescape : Text → Text
  | c :: a :: b :: rest =>
    match (if c = CodePoint.ofChar '%' then (a.hexValue?).bind fun high =>
      (b.hexValue?).map fun low => CodePoint.ofNat (high * 16 + low) else none) with
    | some d => d :: unescape rest
    | none => c :: unescape (a :: b :: rest)
  | t => t

/-- The segments in order; numbered ones cannot be put in order with others. -/
def sorted (segments : List Segment) : Except Mishap (List Segment) :=
  match segments with
  | [] => .ok []
  | first :: rest =>
    if rest.all fun s => s.number?.isSome = first.number?.isSome then
      .ok (segments.mergeSort Segment.precedes)
    else .error (.ofCharsetFault (.unevenSegments first.number?.isSome))

/-- The names that segments stand under, in the order in which they come up, and the segments of
each. -/
def grouped (segments : List (Text × Segment)) : Except Mishap (List (Text × List Segment)) :=
  (segments.map Prod.fst).eraseDups.mapM fun stem =>
    (sorted ((segments.filter (·.1 = stem)).map Prod.snd)).map (stem, ·)

/-- The value that escaped segments make up together: without a charset of its own the code points
themselves are taken. -/
def joined (value : Text) : Except Mishap Text :=
  let tick := CodePoint.ofChar '\''
  let (charset, value, hasCharset) :=
    match Text.cutAt tick value with
    | (charset, some rest) =>
      match Text.cutAt tick rest with
      | (_, some rest) => (charset, rest, true)
      | _ => ([], value, false)
    | _ => ([], value, false)
  let name := if hasCharset && !charset.isEmpty then charset else text "us-ascii"
  if name.contains (CodePoint.ofNat 0) then .error (.ofCharsetFault .nulInName)
  else
    .ok (((Charset.ofName? name).bind fun charset =>
      charset.decodeStrict? (value.map fun c => UInt8.ofNat c.val)).getD value)

/-- The value that segments make up together. -/
def whole (segments : List Segment) : Except Mishap Text :=
  let value := segments.flatMap fun s => if s.isEscaped then unescape s.value else s.value
  if segments.any (·.isEscaped) then joined value else .ok value

/-- The parameters of a content type that have plain values, and the segments of the others. -/
def parameters (contentType : Text) :
    Except Mishap (List (Text × Text) × List (Text × List Segment)) :=
  match listed contentType with
  | [] => .ok ([], [])
  | first :: rest => do
    let segments ← rest.mapM segment?
    return (first :: rest.filter fun p => (marked? p.1).isNone, ← grouped (segments.filterMap id))

/-- The value of a parameter: the first plain one, or else what its segments make up. -/
def value? (name contentType : Text) : Except Mishap (Option Text) := do
  let (plain, groups) ← parameters contentType
  match plain.find? (isNamed name) with
  | some p => return some (unquote p.2)
  | none =>
    match groups.find? (·.1.map CodePoint.asciiLower = name) with
    | some (_, segments) => return some (← whole segments)
    | none => return none

/-! ### The charset -/

/-- The charset of this name, if it is known, and UTF-8 otherwise. -/
def charsetOf (name : Text) : Except Mishap Charset :=
  if !name.isAscii then .ok (.utf8 false)
  else if name.contains (CodePoint.ofNat 0) then .error (.ofCharsetFault .nulInName)
  else .ok ((Charset.ofName? name).getD (.utf8 false))

/-- The charset that a content type names, if it is known, and UTF-8 otherwise. -/
def charset (contentType? : Option Text) : Except Mishap Charset := do
  match ← value? (text "charset") (contentType?.getD []) with
  | some name => charsetOf name
  | none => return .utf8 false

end ContentType

end CompletionWire
