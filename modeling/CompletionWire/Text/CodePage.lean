import CompletionWire.Text.Utf8

/-!
# Code pages

A code page gives each byte one code point. Most bytes stand for the code point of their own number;
a page lists those that do not.
-/

namespace CompletionWire

/-- A page: the names it goes by, how many bytes it covers from zero on, and the code points of some
runs of bytes, each with its first byte. U+FFFD takes the place of a byte that stands for
nothing. -/
structure CodePage where
  name : String
  aliases : List String := []
  size : Nat := 256
  differing : List (Nat × String) := []

namespace CodePage

/-- The code point that a byte stands for, if it stands for one. -/
def codePoint? (p : CodePage) (b : Nat) : Option CodePoint :=
  if p.size ≤ b then none
  else
    match p.differing.find? fun (first, run) => first ≤ b && b < first + run.length with
    | some (first, run) =>
      ((text run)[b - first]?).bind fun c => if c = .replacement then none else some c
    | none => some (CodePoint.ofNat b)

def decode (p : CodePage) (bytes : Bytes) : List (Option CodePoint) :=
  let table := (Array.range 256).map p.codePoint?
  bytes.map fun b => (table[b.toNat]?).join

end CodePage

end CompletionWire
