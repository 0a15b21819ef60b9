import CompletionWire.Text.CodePoint

/-!
# Blank code points

Two classes of blanks. `isWhiteSpace` is the Unicode property of that name; `isBlank`, by which tags
and settings are trimmed, adds the four information separators U+001C to U+001F.
-/

namespace CompletionWire

namespace CodePoint

def isWhiteSpace (c : CodePoint) : Bool :=
  (9 ≤ c.val && c.val ≤ 13) || c.val = 0x20 || c.val = 0x85 || c.val = 0xA0 || c.val = 0x1680 ||
    (0x2000 ≤ c.val && c.val ≤ 0x200A) || c.val = 0x2028 || c.val = 0x2029 || c.val = 0x202F ||
    c.val = 0x205F || c.val = 0x3000

def isInformationSeparator (c : CodePoint) : Bool := 0x1C ≤ c.val && c.val ≤ 0x1F

/-- White space or an information separator. -/
def isBlank (c : CodePoint) : Bool := c.isWhiteSpace || c.isInformationSeparator

end CodePoint

def Text.trim (t : Text) : Text := t.trimBy CodePoint.isBlank

end CompletionWire
