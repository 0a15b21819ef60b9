import CompletionWire.Text.CodePoint

/-!
# Line ends

Text files and standard input are read with one line end: a carriage return, alone or with the line
feed behind it, is a line feed.
-/

namespace CompletionWire

namespace CodePoint

def lineFeed : CodePoint := ofChar '\n'

def carriageReturn : CodePoint := ofChar '\r'

end CodePoint

namespace Text

/-- What a code point contributes behind `previous`: a line feed that ends a carriage return is
already counted. -/
def lineEnd (previous c : CodePoint) : Text :=
  if c = .lineFeed ∧ previous = .carriageReturn then []
  else if c = .carriageReturn then [.lineFeed]
  else [c]

def unifyLineEnds (t : Text) : Text :=
  (List.zip (.lineFeed :: t) t).flatMap fun (previous, c) => lineEnd previous c

end Text

end CompletionWire
