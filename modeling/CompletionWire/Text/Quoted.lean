import CompletionWire.Text.Printable

/-!
# Quoted texts

A quoted text is what an error message shows of a given text: single quotes around it, or double
quotes if it holds single ones only, with backslash escapes for the quote, the backslash, line ends,
tabs and whatever is not printable.
-/

namespace CompletionWire

/-- The escape of a code point, by the size of its number. -/
def CodePoint.escaped (c : CodePoint) : Text :=
  if c.val ≤ 0xFF then text "\\x" ++ Text.hex 2 c.val
  else if c.val ≤ 0xFFFF then text "\\u" ++ Text.hex 4 c.val
  else text "\\U" ++ Text.hex 8 c.val

namespace Text

def singleQuote : CodePoint := CodePoint.ofChar '\''

def doubleQuote : CodePoint := CodePoint.ofChar '"'

def backslash : CodePoint := CodePoint.ofChar '\\'

/-- The quotation mark that a text is put between. -/
def quotationMark (t : Text) : CodePoint :=
  if singleQuote ∈ t ∧ doubleQuote ∉ t then doubleQuote else singleQuote

/-- One code point of a quoted text. -/
def quotedForm (mark c : CodePoint) : Text :=
  if c = mark ∨ c = backslash then [backslash, c]
  else if c.val = 9 then text "\\t"
  else if c.val = 10 then text "\\n"
  else if c.val = 13 then text "\\r"
  else if c.isPrintable then [c]
  else c.escaped

def quoted (t : Text) : Text :=
  [t.quotationMark] ++ t.flatMap (quotedForm t.quotationMark) ++ [t.quotationMark]

end Text

end CompletionWire
