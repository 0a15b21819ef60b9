import CompletionWire.Request.Label
import CompletionWire.Text.Punycode

/-!
# Domain names

A domain name is a sequence of labels. Names in any script have an ASCII form, in which every label
that is not ASCII is its Punycode behind four marking letters. A label of that form is valid if it
can be read and what it stands for is a valid label.
-/

namespace CompletionWire

/-- Why a text is no domain name. -/
inductive DomainNameFault
  | tooLong
  | longLabel
  | label (fault : LabelFault)
  | nothingEncoded
  | hyphenAtEnd
  | unreadable
deriving DecidableEq

def DomainNameFault.message : DomainNameFault → Text
  | tooLong => text "Domain too long"
  | longLabel => text "Label too long"
  | label fault => fault.message
  | nothingEncoded => text "Malformed A-label, no Punycode eligible content found"
  | hyphenAtEnd => text "A-label must not end with a hyphen"
  | unreadable => text "Invalid A-label"

namespace DomainName

def dot : CodePoint := CodePoint.ofChar '.'

/-- What marks a label that is written in Punycode. -/
def encodedMark : Text := text "xn--"

/-- The full stops that separate labels. -/
def isLabelSeparator (c : CodePoint) : Bool :=
  c.val = 0x2E || c.val = 0x3002 || c.val = 0xFF0E || c.val = 0xFF61

/-- The labels of a name, and what its ASCII form ends in: a separator may stand behind all
labels. -/
def labels (name : Text) : List Text × Text :=
  let pieces := List.splitOnP isLabelSeparator name
  if pieces.getLast? = some [] then (pieces.dropLast, [dot]) else (pieces, [])

/-- The most code points of a name with a full stop behind it. -/
def maxLength : Nat := 254

/-- The most letters of a label in ASCII. -/
def maxLabelLength : Nat := 63

/-- Checks a label in ASCII. -/
def checkAscii (label : Text) : Except DomainNameFault Unit :=
  let small := label.map CodePoint.asciiLower
  match Text.dropStart? encodedMark small with
  | none => (Label.check small).mapError .label
  | some [] => .error .nothingEncoded
  | some form =>
    if form.getLast? = some Label.hyphen then .error .hyphenAtEnd
    else
      match Punycode.decode? form with
      | none => .error .unreadable
      | some decoded => (Label.check decoded).mapError .label

/-- The ASCII form of a label. -/
def asciiLabel (label : Text) : Except DomainNameFault Text := do
  let ascii ←
    if label.isAscii then do
      checkAscii label
      pure label
    else do
      (Label.check label).mapError .label
      pure (encodedMark ++ Punycode.encode label)
  if maxLabelLength < ascii.length then throw .longLabel else return ascii

/-- The ASCII form of a name. -/
def toAscii (name : Text) : Except DomainNameFault Text := do
  if maxLength < name.length then throw .tooLong
  let (pieces, ending) := labels name
  let ascii := [dot].intercalate (← pieces.mapM asciiLabel) ++ ending
  if maxLength - 1 + ending.length < ascii.length then throw .tooLong else return ascii

/-- Checks a name in ASCII. -/
def check (name : Text) : Except DomainNameFault Unit :=
  if maxLength < name.length then .error .tooLong else (labels name).1.forM checkAscii

end DomainName

end CompletionWire
