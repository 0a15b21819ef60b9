import CompletionWire.Text.CodePage.Dos
import CompletionWire.Text.CodePage.Ebcdic
import CompletionWire.Text.CodePage.Iso
import CompletionWire.Text.CodePage.Macintosh
import CompletionWire.Text.CodePage.National
import CompletionWire.Text.CodePage.Windows
import CompletionWire.Text.Escape
import CompletionWire.Text.MultiByte
import CompletionWire.Text.Punycode
import CompletionWire.Text.Utf16
import CompletionWire.Text.Utf7

/-!
# Charsets

How bytes become a text. A charset is known by its name and some aliases; reading bytes by it finds
code points and stretches that stand for nothing. Some names are known that no bytes can be read by.
-/

namespace CompletionWire

inductive Charset
  | utf8 (marked : Bool)
  | utf16 (bigEndian? : Option Bool)
  | utf32 (bigEndian? : Option Bool)
  | utf7
  | page (p : CodePage)
  | multiByte (m : MultiByte)
  | escapes (raw : Bool)
  | punycode
  | domainName
  | undefined
  | rotation
  | transformation

/-- Why bytes cannot be read by a charset. -/
inductive CharsetFault
  | noByteOrder (width : Nat)
  | notAscii (byte : UInt8) (position : Nat)
  | strictOnly
  | tooMuchLeft
  | undefined
  | textOnly
  | notText
  | nulInName
  | unevenSegments (numberedFirst : Bool)
deriving DecidableEq

def CharsetFault.message : CharsetFault → Text
  | noByteOrder width =>
    text "UTF-" ++ Text.ofNat width ++ text " stream does not start with BOM"
  | notAscii byte position =>
    text "'ascii' codec can't decode byte 0x" ++ Text.hex 2 byte.toNat ++ text " in position " ++
      Text.ofNat position ++ text ": ordinal not in range(128)"
  | tooMuchLeft => text "pending buffer overflow"
  | strictOnly => text "Unsupported error handling replace"
  | undefined => text "undefined encoding"
  | textOnly => text "descriptor 'translate' for 'str' objects doesn't apply to a 'bytes' object"
  | notText => []
  | nulInName => text "embedded null character"
  | unevenSegments numberedFirst =>
    text "'<' not supported between instances of " ++
      text (if numberedFirst then "'NoneType' and 'int'" else "'int' and 'NoneType'")

namespace Charset

/-! ### Names -/

/-- The names of charsets: the first of each, and its aliases. -/
def registry : List (Charset × String × List String) := [
  (utf8 false, "utf_8", ["cp65001", "u8", "utf", "utf8", "utf8_ucs2", "utf8_ucs4"]),
  (utf8 true, "utf_8_sig", []),
  (utf16 none, "utf_16", ["u16", "utf16"]),
  (utf16 (some true), "utf_16_be", ["unicodebigunmarked", "utf_16be"]),
  (utf16 (some false), "utf_16_le", ["unicodelittleunmarked", "utf_16le"]),
  (utf32 none, "utf_32", ["u32", "utf32"]),
  (utf32 (some true), "utf_32_be", ["utf_32be"]),
  (utf32 (some false), "utf_32_le", ["utf_32le"]),
  (utf7, "utf_7", ["u7", "unicode_1_1_utf_7", "utf7"]),
  (escapes false, "unicode_escape", []),
  (escapes true, "raw_unicode_escape", []),
  (punycode, "punycode", []),
  (domainName, "idna", []),
  (undefined, "undefined", []),
  (rotation, "rot_13", ["rot13"]),
  (transformation, "base64_codec", ["base64", "base_64"]),
  (transformation, "bz2_codec", ["bz2"]),
  (transformation, "hex_codec", ["hex"]),
  (transformation, "quopri_codec", ["quopri", "quoted_printable", "quotedprintable"]),
  (transformation, "uu_codec", ["uu"]),
  (transformation, "zlib_codec", ["zip", "zlib"])]

def pages : List CodePage :=
  CodePage.isoPages ++ CodePage.windowsPages ++ CodePage.dosPages ++ CodePage.macintoshPages ++
    CodePage.nationalPages ++ CodePage.ebcdicPages

def all : List (Charset × String × List String) :=
  registry ++ (pages.map fun p => (page p, p.name, p.aliases)) ++
    MultiByte.registry.map fun (m, names) => (multiByte m, names)

def isNameCodePoint (c : CodePoint) : Bool :=
  c.isAsciiDigit || c = CodePoint.ofChar '.' || (0x61 ≤ c.val && c.val ≤ 0x7A)

/-- A name in small letters, each run of other marks being one underscore. -/
def normalName (name : Text) : Text :=
  let words := List.splitOnP (!isNameCodePoint ·) (name.map CodePoint.asciiLower)
  (text "_").intercalate (words.filter (!·.isEmpty))

/-- The charset of a name. An alias may also be written with full stops between its words. -/
def ofName? (name : Text) : Option Charset :=
  let written := normalName name
  let joined := written.map fun c => if c = CodePoint.ofChar '.' then CodePoint.ofChar '_' else c
  let known := all.map fun (charset, name, aliases) => (charset, text name, aliases.map text)
  ((known.find? fun (_, _, aliases) => aliases.contains written).or
    ((known.find? fun (_, _, aliases) => aliases.contains joined).or
      (known.find? fun (_, name, _) => name = written))).map (·.1)

/-! ### Decoding -/

def utf8Mark : Bytes := [0xEF, 0xBB, 0xBF]

/-- The bytes behind a mark, of which only a part may be there. -/
def withoutUtf8Mark (bytes : Bytes) : Bytes :=
  if bytes.take 3 = utf8Mark.take bytes.length then bytes.drop 3 else bytes

def decodeUtf8 (bytes : Bytes) : List (Option CodePoint) :=
  (Utf8.segments false bytes).map fun
    | .scalar c => some c
    | .illFormed _ _ => none

/-- Reads bytes whose order a mark tells; too few bytes for a mark are one stretch. -/
def decodeMarked (width : Nat) (decode : Bool → Bytes → List (Option CodePoint))
    (byteOrder? : Bytes → Option (Bool × Bytes)) (bytes : Bytes) :
    Except CharsetFault (List (Option CodePoint)) :=
  match byteOrder? bytes with
  | some (bigEndian, rest) => .ok (decode bigEndian rest)
  | none =>
    if bytes.length * 8 < width then .ok (bytes.take 1 |>.map fun _ => none)
    else .error (.noByteOrder width)

/-- Reads the bytes of a domain name's label, as far as they can be read. -/
def decodePunycode (bytes : Bytes) : Except CharsetFault (List (Option CodePoint)) :=
  let form := bytes.map fun b => CodePoint.ofNat b.toNat
  let (basic, digits) := Punycode.parts form
  match digits.findIdx? (0x80 ≤ ·.val) with
  | some i => .error (.notAscii (UInt8.ofNat ((digits[i]?.map (·.val)).getD 0)) i)
  | none =>
    let basic := basic.map fun c => if c.val < 0x80 then c else .replacement
    .ok ((Punycode.readable basic digits).map some)

/-- How many bytes may be left when the last code is cut short. -/
def maxLeft : Nat := 8

/-- Reads codes of several bytes; the start of a code that is not finished is one stretch. -/
def decodeMultiByte (bytes : Bytes) (m : MultiByte) :
    Except CharsetFault (List (Option CodePoint)) :=
  let (found, left) := m.read bytes
  if left.isEmpty then .ok found
  else if left.length ≤ maxLeft then .ok (found ++ [none])
  else .error .tooMuchLeft

/-- What bytes stand for, piece by piece. -/
def decode (bytes : Bytes) : Charset → Except CharsetFault (List (Option CodePoint))
  | utf8 marked => .ok (decodeUtf8 (if marked then withoutUtf8Mark bytes else bytes))
  | utf16 (some bigEndian) => .ok (Utf16.decode bigEndian bytes)
  | utf16 none => decodeMarked 16 Utf16.decode Utf16.byteOrder? bytes
  | utf32 (some bigEndian) => .ok (Utf32.decode bigEndian bytes)
  | utf32 none => decodeMarked 32 Utf32.decode Utf32.byteOrder? bytes
  | utf7 => .ok (Utf7.decode bytes)
  | page p => .ok (p.decode bytes)
  | multiByte m => decodeMultiByte bytes m
  | escapes raw => .ok (Escape.decode raw bytes)
  | punycode => decodePunycode bytes
  | domainName => .error .strictOnly
  | undefined => .error .undefined
  | rotation => .error .textOnly
  | transformation => .error .notText

/-- The text of bytes, U+FFFD taking the place of whatever stands for nothing. -/
def decodeReplacing (charset : Charset) (bytes : Bytes) : Except CharsetFault Text :=
  if bytes.isEmpty then .ok []
  else (charset.decode bytes).map fun found => found.map (·.getD .replacement)

/-- The text of bytes that all stand for something; without a mark the low byte comes first. -/
def decodeStrict? (charset : Charset) (bytes : Bytes) : Option Text :=
  match charset with
  | utf16 none =>
    let (bigEndian, rest) := (Utf16.byteOrder? bytes).getD (false, bytes)
    (Utf16.decode bigEndian rest).mapM id
  | utf32 none =>
    let (bigEndian, rest) := (Utf32.byteOrder? bytes).getD (false, bytes)
    (Utf32.decode bigEndian rest).mapM id
  | punycode => Punycode.decode? (bytes.map fun b => CodePoint.ofNat b.toNat)
  | domainName => some (bytes.map fun b => CodePoint.ofNat b.toNat)
  | _ =>
    match charset.decode bytes with
    | .ok found => found.mapM id
    | .error _ => none

end Charset

end CompletionWire
