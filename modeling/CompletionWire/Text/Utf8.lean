import CompletionWire.Text.CodePoint

/-!
# UTF-8

Encoding gives a lone surrogate the three bytes its number calls for, so every text has a byte form;
`encode?` is the strict form, which names the first run of surrogates instead. Decoding cuts the
bytes into segments, each one code point or a longest ill-formed stretch, by a machine that reads
one byte at a time; what becomes of the ill-formed segments is the caller's choice: U+FFFD, an
escape, or a refusal.
-/

namespace CompletionWire

abbrev Bytes := List UInt8

namespace CodePoint

/-- The bytes of a code point, by the size of its number alone. -/
def utf8 (c : CodePoint) : Bytes :=
  if c.val < 0x80 then [UInt8.ofNat c.val]
  else if c.val < 0x800 then [UInt8.ofNat (0xC0 + c.val / 0x40), UInt8.ofNat (0x80 + c.val % 0x40)]
  else if c.val < 0x10000 then
    [UInt8.ofNat (0xE0 + c.val / 0x1000), UInt8.ofNat (0x80 + c.val / 0x40 % 0x40),
      UInt8.ofNat (0x80 + c.val % 0x40)]
  else
    [UInt8.ofNat (0xF0 + c.val / 0x40000), UInt8.ofNat (0x80 + c.val / 0x1000 % 0x40),
      UInt8.ofNat (0x80 + c.val / 0x40 % 0x40), UInt8.ofNat (0x80 + c.val % 0x40)]

end CodePoint

/-- The bytes of a text, a lone surrogate taking three. -/
def Text.utf8 (t : Text) : Bytes := t.flatMap CodePoint.utf8

/-- A run of surrogates in a text that has to be strict UTF-8. -/
structure LoneSurrogates where
  first : CodePoint
  start : Nat
  count : Nat
deriving DecidableEq

/-- The first run of surrogates in a text. -/
def Text.loneSurrogates? (t : Text) : Option LoneSurrogates :=
  match t.dropWhile (!·.isSurrogate) with
  | [] => none
  | c :: rest => some {
      first := c
      start := (t.takeWhile (!·.isSurrogate)).length
      count := ((c :: rest).takeWhile (·.isSurrogate)).length }

/-- The bytes of a text without surrogates. -/
def Text.encode? (t : Text) : Except LoneSurrogates Bytes :=
  match t.loneSurrogates? with
  | some run => .error run
  | none => .ok t.utf8

/-- The wording of a strict encoder that met surrogates. -/
def LoneSurrogates.message (run : LoneSurrogates) : Text :=
  if run.count = 1 then
    text "'utf-8' codec can't encode character '\\u" ++ Text.hex 4 run.first.val ++
      text "' in position " ++ Text.ofNat run.start ++ text ": surrogates not allowed"
  else
    text "'utf-8' codec can't encode characters in position " ++ Text.ofNat run.start ++ text "-" ++
      Text.ofNat (run.start + run.count - 1) ++ text ": surrogates not allowed"

namespace Utf8

/-- Why a stretch of bytes is not a code point. -/
inductive Flaw
  | start | continuation | cutShort
deriving DecidableEq

/-- One code point, or a longest stretch of bytes that begins none. -/
inductive Segment
  | scalar (c : CodePoint)
  | illFormed (bytes : Bytes) (flaw : Flaw)
deriving DecidableEq

/-- What a leading byte promises: how many bytes follow, between which bounds the next one lies, and
the bits it brings. -/
structure Lead where
  following : Nat
  low : Nat := 0x80
  high : Nat := 0xBF
  bits : Nat
deriving DecidableEq

/-- The promise of a leading byte; `surrogates` says whether the three-byte forms of surrogates
count as code points. -/
def lead? (surrogates : Bool) (b : UInt8) : Option Lead :=
  let n := b.toNat
  if n < 0x80 then some { following := 0, bits := n }
  else if n < 0xC2 then none
  else if n < 0xE0 then some { following := 1, bits := n - 0xC0 }
  else if n = 0xE0 then some { following := 2, low := 0xA0, bits := 0 }
  else if n = 0xED then
    some { following := 2, high := if surrogates then 0xBF else 0x9F, bits := 0xD }
  else if n < 0xF0 then some { following := 2, bits := n - 0xE0 }
  else if n = 0xF0 then some { following := 3, low := 0x90, bits := 0 }
  else if n < 0xF4 then some { following := 3, bits := n - 0xF0 }
  else if n = 0xF4 then some { following := 3, high := 0x8F, bits := 4 }
  else none

/-- The machine between two bytes: the segments cut so far, latest first, and the promise still open
with the bytes it has taken, latest first. -/
structure State where
  segments : List Segment := []
  open? : Option (Lead × Bytes) := none

/-- Reads a byte where a code point may begin. -/
def State.begin (surrogates : Bool) (segments : List Segment) (b : UInt8) : State :=
  match lead? surrogates b with
  | none => { segments := .illFormed [b] .start :: segments }
  | some lead =>
    if lead.following = 0 then { segments := .scalar (CodePoint.ofNat lead.bits) :: segments }
    else { segments, open? := some (lead, [b]) }

def State.step (surrogates : Bool) (s : State) (b : UInt8) : State :=
  match s.open? with
  | none => State.begin surrogates s.segments b
  | some (lead, taken) =>
    if lead.low ≤ b.toNat ∧ b.toNat ≤ lead.high then
      let bits := lead.bits * 0x40 + b.toNat % 0x40
      if lead.following = 1 then { segments := .scalar (CodePoint.ofNat bits) :: s.segments }
      else
        { segments := s.segments
          open? := some ({ following := lead.following - 1, bits }, b :: taken) }
    else State.begin surrogates (.illFormed taken.reverse .continuation :: s.segments) b

def State.finish (s : State) : List Segment :=
  match s.open? with
  | none => s.segments.reverse
  | some (_, taken) => (.illFormed taken.reverse .cutShort :: s.segments).reverse

/-- The segments of a byte string, in order. -/
def segments (surrogates : Bool) (bytes : Bytes) : List Segment :=
  (bytes.foldl (State.step surrogates) {}).finish

/-- Each ill-formed segment becomes one U+FFFD. -/
def decodeReplacing (bytes : Bytes) : Text :=
  (segments false bytes).map fun
    | .scalar c => c
    | .illFormed _ _ => CodePoint.replacement

/-- Each byte of an ill-formed segment becomes the low surrogate U+DC00 + byte, so that no byte is
lost. -/
def decodeEscaping (bytes : Bytes) : Text :=
  (segments false bytes).flatMap fun
    | .scalar c => [c]
    | .illFormed bad _ => bad.map fun b => CodePoint.ofNat (0xDC00 + b.toNat)

/-- Ill-formed bytes, with the number of bytes before them. -/
structure IllFormed where
  start : Nat
  bytes : Bytes
  flaw : Flaw
deriving DecidableEq

/-- Collects code points until the first ill-formed segment. -/
def collect : (offset : Nat) → (found : Text) → List Segment → Except IllFormed Text
  | _, found, [] => .ok found.reverse
  | offset, found, .scalar c :: rest => collect (offset + c.utf8.length) (c :: found) rest
  | offset, _, .illFormed bytes flaw :: _ => .error { start := offset, bytes, flaw }

/-- The text of well-formed bytes; with `surrogates`, in the form that `Text.utf8` writes. -/
def decode? (surrogates : Bool) (bytes : Bytes) : Except IllFormed Text :=
  collect 0 [] (segments surrogates bytes)

def Flaw.message : Flaw → Text
  | .start => text "invalid start byte"
  | .continuation => text "invalid continuation byte"
  | .cutShort => text "unexpected end of data"

/-- The wording of a strict decoder that met ill-formed bytes. -/
def IllFormed.message (e : IllFormed) : Text :=
  (match e.bytes with
    | [b] =>
      text "'utf-8' codec can't decode byte 0x" ++ Text.hex 2 b.toNat ++ text " in position " ++
        Text.ofNat e.start
    | bytes =>
      text "'utf-8' codec can't decode bytes in position " ++ Text.ofNat e.start ++ text "-" ++
        Text.ofNat (e.start + bytes.length - 1)) ++
  text ": " ++ e.flaw.message

end Utf8

end CompletionWire
