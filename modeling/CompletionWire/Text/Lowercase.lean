import CompletionWire.Text.Casing

/-!
# Lower case

Lower-casing goes code point by code point, with two exceptions: U+0130 becomes an i and a combining
dot, and a capital sigma that ends a word becomes the final sigma. Word ends are found by looking
through case-ignorable code points on both sides.
-/

namespace CompletionWire

namespace CodePoint

def capitalSigma : CodePoint := ⟨0x3A3, by decide⟩

def finalSigma : CodePoint := ⟨0x3C2, by decide⟩

/-- The small form of a code point other than a capital sigma. -/
def lower (c : CodePoint) : Text :=
  if c.val = 0x130 then [ofChar 'i', ofNat 0x307] else [c.smallLetter]

end CodePoint

namespace Text

/-- The first code point that casing does not look through is cased. -/
def nextIsCased (t : Text) : Bool :=
  ((t.dropWhile CodePoint.isCaseIgnorable).head?.map CodePoint.isCased).getD false

/-- The small form of a code point between what precedes it, nearest first, and what follows. -/
def lowerBetween (before : Text) (c : CodePoint) (after : Text) : Text :=
  if c = .capitalSigma then
    if nextIsCased before && !nextIsCased after then [.finalSigma] else [c.smallLetter]
  else c.lower

/-- Lower-cases `rest` behind `before`, which is held nearest first; `done` holds the result latest
first. -/
def lowerFrom (before done : Text) : (rest : Text) → Text
  | [] => done.reverse
  | c :: rest => lowerFrom (c :: before) ((lowerBetween before c rest).reverse ++ done) rest

def lower (t : Text) : Text := lowerFrom [] [] t

end Text

end CompletionWire
