import CompletionWire.Text.Composition
import CompletionWire.Text.Mark

/-!
# Composed texts

A text is composed when each letter and the marks behind it are written with as few code points as
there are for them, and marks that commute stand in the order of their classes. What a text would be
in that form is found by taking every code point apart, sorting the marks, and putting together
again what goes together; the text is composed if nothing has changed.
-/

namespace CompletionWire

/-- A code point and the marks that it is composed of; no code point is composed of more than three
marks. -/
def CodePoint.parts (c : CodePoint) : (depth : Nat) → Text
  | 0 => [c]
  | depth + 1 =>
    match c.split? with
    | some (base, mark) => base.parts depth ++ [mark]
    | none => [c]

namespace Text

/-! ### The order of marks -/

/-- Puts a mark behind the marks in front of which it may not move; `before` is held latest
first. -/
def insertMark (mark : CodePoint) : (before : Text) → Text
  | [] => [mark]
  | c :: before =>
    if mark.combiningClass < c.combiningClass then c :: insertMark mark before
    else mark :: c :: before

/-- Moves every mark in front of marks of higher classes; the result is held latest first. -/
def sortMarks (t : Text) : Text :=
  t.foldl (fun sorted c => if c.combiningClass = 0 then c :: sorted else insertMark c sorted) []

/-! ### Composition -/

/-- What is composed so far, latest first: `done` is closed, and `base` and the marks behind it may
still change. -/
structure Composing where
  done : Text := []
  base? : Option CodePoint := none
  marks : Text := []

namespace Composing

def text (s : Composing) : Text := s.marks ++ s.base?.toList ++ s.done

/-- Whether no mark keeps a code point from the base. -/
def reaches (s : Composing) (c : CodePoint) : Bool :=
  s.marks.head?.all fun mark => mark.combiningClass < c.combiningClass

/-- Adds a code point: to the base if the two compose, else behind it. -/
def push (s : Composing) (c : CodePoint) : Composing :=
  match s.base?.bind fun base => if s.reaches c then base.compose? c else none with
  | some composed => { s with base? := some composed }
  | none =>
    if c.combiningClass = 0 then { done := s.text, base? := some c }
    else { s with marks := c :: s.marks }

end Composing

def composed (t : Text) : Text :=
  ((sortMarks (t.flatMap (CodePoint.parts · 3))).reverse.foldl Composing.push {}).text.reverse

def isComposed (t : Text) : Bool :=
  !t.any (·.isWithin CodePoint.neverComposedRanges) && t.composed = t

end Text

end CompletionWire
