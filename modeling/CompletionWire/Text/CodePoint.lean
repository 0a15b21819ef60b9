/-!
# Code points and texts

A text is a list of Unicode code points in which a surrogate may stand alone: wire data decoded
leniently holds such texts, and everything here measures, trims and writes them like any other.
String literals enter through `text`.
-/

namespace CompletionWire

/-- A Unicode code point, surrogates included. -/
structure CodePoint where
  val : Nat
  val_lt : val < 0x110000
deriving DecidableEq

abbrev Text := List CodePoint

namespace CodePoint

/-- U+FFFD, which stands for what could not be decoded. -/
def replacement : CodePoint := ⟨0xFFFD, by decide⟩

/-- The code point numbered `n`, or U+FFFD beyond the last one. -/
def ofNat (n : Nat) : CodePoint := if h : n < 0x110000 then ⟨n, h⟩ else replacement

def ofChar (c : Char) : CodePoint := ⟨c.toNat, by
  have h := c.valid
  simp only [UInt32.isValidChar, Nat.isValidChar] at h
  simp only [Char.toNat]
  omega⟩

instance : Coe Char CodePoint := ⟨ofChar⟩

instance : Inhabited CodePoint := ⟨replacement⟩

@[ext] theorem ext {a b : CodePoint} (h : a.val = b.val) : a = b := by
  cases a; cases b; simp_all

theorem ofNat_val (c : CodePoint) : ofNat c.val = c := by
  simp [ofNat, c.val_lt]

theorem val_ofNat {n : Nat} (h : n < 0x110000) : (ofNat n).val = n := by
  simp [ofNat, h]

/-! ### Surrogates -/

def isHighSurrogate (c : CodePoint) : Bool := 0xD800 ≤ c.val && c.val ≤ 0xDBFF

def isLowSurrogate (c : CodePoint) : Bool := 0xDC00 ≤ c.val && c.val ≤ 0xDFFF

def isSurrogate (c : CodePoint) : Bool := 0xD800 ≤ c.val && c.val ≤ 0xDFFF

/-- The supplementary code point that a high and a low surrogate stand for together. -/
def joinSurrogates (high low : CodePoint) : CodePoint :=
  ofNat (0x10000 + (high.val - 0xD800) * 0x400 + (low.val - 0xDC00))

/-- The surrogate pair that stands for a supplementary code point. -/
def splitSurrogates (c : CodePoint) : CodePoint × CodePoint :=
  (ofNat (0xD800 + (c.val - 0x10000) / 0x400), ofNat (0xDC00 + (c.val - 0x10000) % 0x400))

theorem isSurrogate_iff (c : CodePoint) :
    c.isSurrogate = true ↔ c.isHighSurrogate = true ∨ c.isLowSurrogate = true := by
  simp only [isSurrogate, isHighSurrogate, isLowSurrogate, Bool.and_eq_true, decide_eq_true_eq]
  omega

theorem joinSurrogates_splitSurrogates {c : CodePoint} (h : 0x10000 ≤ c.val) :
    joinSurrogates c.splitSurrogates.1 c.splitSurrogates.2 = c := by
  have hc := c.val_lt
  have hhigh : (ofNat (0xD800 + (c.val - 0x10000) / 0x400)).val =
      0xD800 + (c.val - 0x10000) / 0x400 := val_ofNat (by omega)
  have hlow : (ofNat (0xDC00 + (c.val - 0x10000) % 0x400)).val =
      0xDC00 + (c.val - 0x10000) % 0x400 := val_ofNat (by omega)
  apply ext
  rw [joinSurrogates, splitSurrogates, hhigh, hlow, val_ofNat (by omega)]
  omega

/-! ### Classes -/

/-- Whether a code point lies in one of some ranges, given by their first and last numbers. -/
def isWithin (c : CodePoint) (ranges : List (Nat × Nat)) : Bool :=
  ranges.any fun (first, last) => first ≤ c.val && c.val ≤ last

def isAsciiDigit (c : CodePoint) : Bool := 0x30 ≤ c.val && c.val ≤ 0x39

/-- The value of a hexadecimal digit in either case. -/
def hexValue? (c : CodePoint) : Option Nat :=
  if 0x30 ≤ c.val ∧ c.val ≤ 0x39 then some (c.val - 0x30)
  else if 0x41 ≤ c.val ∧ c.val ≤ 0x46 then some (c.val - 0x37)
  else if 0x61 ≤ c.val ∧ c.val ≤ 0x66 then some (c.val - 0x57)
  else none

/-- The lower-case hexadecimal digit of value `n`, for `n` below sixteen. -/
def hexDigit (n : Nat) : CodePoint := if n < 10 then ofNat (0x30 + n) else ofNat (0x57 + n)

/-- An ASCII capital becomes its small letter; all else stays. -/
def asciiLower (c : CodePoint) : CodePoint :=
  if 0x41 ≤ c.val ∧ c.val ≤ 0x5A then ofNat (c.val + 0x20) else c

/-- A small letter of ASCII becomes its capital; all else stays. -/
def asciiUpper (c : CodePoint) : CodePoint :=
  if 0x61 ≤ c.val ∧ c.val ≤ 0x7A then ofNat (c.val - 0x20) else c

end CodePoint

/-! ### Texts -/

/-- The text a string literal writes. -/
def text (s : String) : Text := s.toList.map CodePoint.ofChar

theorem text_append (s t : String) : text (s ++ t) = text s ++ text t := by
  simp [text]

namespace Text

/-- The decimal digits of a number. -/
def ofNat (n : Nat) : Text := (Nat.toDigits 10 n).map CodePoint.ofChar

/-- The decimal digits of a number behind its sign, if it is negative. -/
def ofInt : Int → Text
  | .ofNat n => ofNat n
  | .negSucc n => CodePoint.ofChar '-' :: ofNat (n + 1)

/-- The last `width` hexadecimal digits of `n`. -/
def hex : (width : Nat) → (n : Nat) → Text
  | 0, _ => []
  | width + 1, n => hex width (n / 16) ++ [CodePoint.hexDigit (n % 16)]

/-- The rest of `t` behind `start`, if it begins so. -/
def dropStart? : (start : Text) → (t : Text) → Option Text
  | [], t => some t
  | _ :: _, [] => none
  | s :: start, c :: t => if s = c then dropStart? start t else none

def startsWith (t start : Text) : Bool := (dropStart? start t).isSome

/-- The text without the code points of a class at either end. -/
def trimBy (p : CodePoint → Bool) (t : Text) : Text :=
  ((t.dropWhile p).reverse.dropWhile p).reverse

/-- The part before the first `c`, and the part behind it if there is one. -/
def cutAt (c : CodePoint) (t : Text) : Text × Option Text :=
  (t.takeWhile (· ≠ c), (t.dropWhile (· ≠ c)).tail?)

/-- The pieces between occurrences of `c`. -/
def splitOn (c : CodePoint) (t : Text) : List Text := List.splitOnP (· == c) t

def isAscii (t : Text) : Bool := t.all (·.val < 0x80)

theorem dropStart?_append (start rest : Text) : dropStart? start (start ++ rest) = some rest := by
  induction start with
  | nil => rfl
  | cons c start ih => simp [dropStart?, ih]

theorem eq_append_of_dropStart? {start t rest : Text} (h : dropStart? start t = some rest) :
    t = start ++ rest := by
  induction start generalizing t with
  | nil => simpa [dropStart?] using h
  | cons c start ih =>
    cases t with
    | nil => simp [dropStart?] at h
    | cons d t =>
      by_cases hcd : c = d
      · simp only [dropStart?, hcd, if_true] at h
        simp [ih h, hcd]
      · simp [dropStart?, hcd] at h

end Text

end CompletionWire
