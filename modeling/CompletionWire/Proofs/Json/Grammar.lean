import CompletionWire.Decimal.Numeral
import CompletionWire.Json.Value
import CompletionWire.Text.Quoted
import Mathlib.Data.List.Induction
import Mathlib.Data.Nat.Digits.Defs

/-!
# The grammar of JSON

Which texts write a JSON value, and which value each of them writes. The grammar is that of the
standard, apart from a limit on the digits of whole numbers that a reader may set. It says nothing
of how a text is read: blanks stand where they may stand, and a string is a sequence of units that
are joined to code points only when all of them are there.
-/

namespace CompletionWire

namespace Json

namespace Grammar

def blanks : List Nat := [0x20, 9, 0xA, 0xD]

def IsBlanks (t : Text) : Prop := ∀ c ∈ t, c.val ∈ blanks

/-! ### Numbers -/

def IsDigits (t : Text) : Prop := t ≠ [] ∧ ∀ c ∈ t, c.isAsciiDigit = true

def number (t : Text) : Nat := Nat.ofDigits 10 (t.reverse.map fun c => c.val - 0x30)

/-- What stands before a point: digits that begin with a zero only if there is no other one. -/
def IsWhole (t : Text) : Prop := IsDigits t ∧ (t.head?.map (·.val) = some 0x30 → t.length = 1)

def sign (negative : Bool) : Text := if negative then [CodePoint.ofChar '-'] else []

/-- A point with digits behind it, which may be left out. -/
inductive IsFraction : Text → Text → Prop
  | absent : IsFraction [] []
  | digits {ds : Text} (hds : IsDigits ds) : IsFraction (CodePoint.ofChar '.' :: ds) ds

/-- The sign of an exponent, which may be left out where it is a plus. -/
inductive IsExponentSign : Text → Bool → Prop
  | absent : IsExponentSign [] false
  | plus : IsExponentSign [CodePoint.ofChar '+'] false
  | minus : IsExponentSign [CodePoint.ofChar '-'] true

inductive IsExponent : Text → Int → Prop
  | digits {e : CodePoint} {s ds : Text} {negative : Bool}
      (he : e = CodePoint.ofChar 'e' ∨ e = CodePoint.ofChar 'E')
      (hs : IsExponentSign s negative) (hds : IsDigits ds) :
      IsExponent (e :: (s ++ ds)) (Numeral.signed negative (number ds))

/-- A number is whole, of any size but with a limit on its digits, or else the nearest binary64
number. -/
inductive IsNumber (limit? : Option Nat) : Text → Json → Prop
  | whole (negative : Bool) {w : Text} (hw : IsWhole w)
      (hlimit : ∀ limit, limit? = some limit → w.length ≤ limit) :
      IsNumber limit? (sign negative ++ w) (.int (Numeral.signed negative (number w)))
  | fraction (negative : Bool) {w ds : Text} (hw : IsWhole w) (hds : IsDigits ds) :
      IsNumber limit? (sign negative ++ (w ++ CodePoint.ofChar '.' :: ds))
        (.float (.ofDecimal negative (number (w ++ ds)) (-ds.length)))
  | exponent (negative : Bool) {w f ds x : Text} {e : Int} (hw : IsWhole w) (hf : IsFraction f ds)
      (hx : IsExponent x e) :
      IsNumber limit? (sign negative ++ (w ++ (f ++ x)))
        (.float (.ofDecimal negative (number (w ++ ds)) (e - ds.length)))

/-! ### Strings -/

/-- The letters that may stand behind a backslash, and what each of them writes. -/
def shortEscapes : List (Nat × Nat) :=
  [(0x22, 0x22), (0x5C, 0x5C), (0x2F, 0x2F), (0x62, 8), (0x66, 0xC), (0x6E, 0xA), (0x72, 0xD),
    (0x74, 9)]

/-- The text of one unit of a string, its code point, and whether it is written as a number. -/
inductive IsUnit : Text → CodePoint → Bool → Prop
  | literal {c : CodePoint} (hc : 0x20 ≤ c.val) (hquote : c ≠ Text.doubleQuote)
      (hbackslash : c ≠ Text.backslash) : IsUnit [c] c false
  | short {e c : CodePoint} (h : (e.val, c.val) ∈ shortEscapes) :
      IsUnit [Text.backslash, e] c false
  | numbered {a b c d : CodePoint} {p q r s : Nat} (ha : a.hexValue? = some p)
      (hb : b.hexValue? = some q) (hc : c.hexValue? = some r) (hd : d.hexValue? = some s) :
      IsUnit [Text.backslash, CodePoint.ofChar 'u', a, b, c, d]
        (CodePoint.ofNat (Nat.ofDigits 16 [s, r, q, p])) true

inductive IsUnits : Text → List (CodePoint × Bool) → Prop
  | nil : IsUnits [] []
  | cons {w ws : Text} {c : CodePoint} {numbered : Bool} {us : List (CodePoint × Bool)}
      (hunit : IsUnit w c numbered) (hrest : IsUnits ws us) :
      IsUnits (w ++ ws) ((c, numbered) :: us)

/-- The text of some units: a high surrogate with a low one directly behind it are one code point
if both are written as numbers, and all else stands for itself. -/
def joinPairs : List (CodePoint × Bool) → Text
  | (c, true) :: (d, true) :: us =>
    if c.isHighSurrogate ∧ d.isLowSurrogate then CodePoint.joinSurrogates c d :: joinPairs us
    else c :: joinPairs ((d, true) :: us)
  | (c, _) :: us => c :: joinPairs us
  | [] => []

def IsString (t s : Text) : Prop :=
  ∃ w us, IsUnits w us ∧ t = Text.doubleQuote :: (w ++ [Text.doubleQuote]) ∧ s = joinPairs us

/-! ### Values -/

inductive IsScalar (limit? : Option Nat) : Text → Json → Prop
  | null : IsScalar limit? (text "null") .null
  | true : IsScalar limit? (text "true") (.bool true)
  | false : IsScalar limit? (text "false") (.bool false)
  | number {t : Text} {v : Json} (h : IsNumber limit? t v) : IsScalar limit? t v
  | string {t s : Text} (h : IsString t s) : IsScalar limit? t (.string s)

/-- The members of an object behind some that it has already: the last one with a key counts. -/
def collect (done ms : Members) : Members :=
  ms.foldl (fun done (k, v) => Members.put k v done) done

/-- What a text can write: a value, a value between blanks, and the items of an array or the members
of an object with what separates them. -/
inductive Phrase
  | value (v : Json)
  | element (v : Json)
  | items (vs : List Json)
  | members (ms : Members)

inductive Derives (limit? : Option Nat) : Phrase → Text → Prop
  | scalar {t : Text} {v : Json} (h : IsScalar limit? t v) : Derives limit? (.value v) t
  | emptyArray {b : Text} (hb : IsBlanks b) :
      Derives limit? (.value (.array []))
        (CodePoint.ofChar '[' :: (b ++ [CodePoint.ofChar ']']))
  | array {w : Text} {vs : List Json} (h : Derives limit? (.items vs) w) :
      Derives limit? (.value (.array vs)) (CodePoint.ofChar '[' :: (w ++ [CodePoint.ofChar ']']))
  | emptyObject {b : Text} (hb : IsBlanks b) :
      Derives limit? (.value (.object []))
        (CodePoint.ofChar '\x7b' :: (b ++ [CodePoint.ofChar '\x7d']))
  | object {w : Text} {ms : Members} (h : Derives limit? (.members ms) w) :
      Derives limit? (.value (.object (collect [] ms)))
        (CodePoint.ofChar '\x7b' :: (w ++ [CodePoint.ofChar '\x7d']))
  | element {before w behind : Text} {v : Json} (hbefore : IsBlanks before)
      (h : Derives limit? (.value v) w) (hbehind : IsBlanks behind) :
      Derives limit? (.element v) (before ++ (w ++ behind))
  | lastItem {w : Text} {v : Json} (h : Derives limit? (.element v) w) :
      Derives limit? (.items [v]) w
  | item {w ws : Text} {v : Json} {vs : List Json} (h : Derives limit? (.element v) w)
      (hrest : Derives limit? (.items vs) ws) :
      Derives limit? (.items (v :: vs)) (w ++ CodePoint.ofChar ',' :: ws)
  | lastMember {before k behind w : Text} {key : Text} {v : Json} (hbefore : IsBlanks before)
      (hk : IsString k key) (hbehind : IsBlanks behind) (h : Derives limit? (.element v) w) :
      Derives limit? (.members [(key, v)])
        (before ++ (k ++ (behind ++ CodePoint.ofChar ':' :: w)))
  | member {before k behind w ws : Text} {key : Text} {v : Json} {ms : Members}
      (hbefore : IsBlanks before) (hk : IsString k key) (hbehind : IsBlanks behind)
      (h : Derives limit? (.element v) w) (hrest : Derives limit? (.members ms) ws) :
      Derives limit? (.members ((key, v) :: ms))
        (before ++ (k ++ (behind ++ CodePoint.ofChar ':' :: (w ++ CodePoint.ofChar ',' :: ws))))

/-- The text writes the value, with nothing but blanks around it. -/
def IsDocument (limit? : Option Nat) (t : Text) (v : Json) : Prop := Derives limit? (.element v) t

/-! ### Code points of blanks and numbers -/

theorem mem_blanks_iff {n : Nat} : n ∈ blanks ↔ n = 0x20 ∨ n = 9 ∨ n = 0xA ∨ n = 0xD := by
  simp only [blanks, List.mem_cons, List.not_mem_nil, or_false]

theorem isAsciiDigit_iff {c : CodePoint} : c.isAsciiDigit = true ↔ 0x30 ≤ c.val ∧ c.val ≤ 0x39 := by
  simp only [CodePoint.isAsciiDigit, Bool.and_eq_true, decide_eq_true_eq]

theorem forall_mem_of_isNumber {limit? : Option Nat} {w : Text} {v : Json} {P : CodePoint → Prop}
    (h : IsNumber limit? w v) (hdigit : ∀ c, c.isAsciiDigit = true → P c)
    (hmark : ∀ c ∈ text "-+.eE", P c) : ∀ c ∈ w, P c := by
  have hdigits {ds : Text} (hds : IsDigits ds) : ∀ c ∈ ds, P c :=
    fun c hc => hdigit c (hds.2 c hc)
  have hsign (negative : Bool) : ∀ c ∈ sign negative, P c := by
    cases negative with
    | false => exact fun _ hc => nomatch hc
    | true => exact List.forall_mem_singleton.2 (hmark _ (by decide))
  have hfraction {f ds : Text} (hf : IsFraction f ds) : ∀ c ∈ f, P c := by
    cases hf with
    | absent => exact fun _ hc => nomatch hc
    | digits hds => exact List.forall_mem_cons.2 ⟨hmark _ (by decide), hdigits hds⟩
  have hexponent {x : Text} {e : Int} (hx : IsExponent x e) : ∀ c ∈ x, P c := by
    cases hx with
    | digits he hs hds =>
      refine List.forall_mem_cons.2 ⟨?_, List.forall_mem_append.2 ⟨?_, hdigits hds⟩⟩
      · rcases he with rfl | rfl <;> exact hmark _ (by decide)
      · cases hs with
        | absent => exact fun _ hc => nomatch hc
        | plus => exact List.forall_mem_singleton.2 (hmark _ (by decide))
        | minus => exact List.forall_mem_singleton.2 (hmark _ (by decide))
  cases h with
  | whole negative hw hlimit => exact List.forall_mem_append.2 ⟨hsign _, hdigits hw.1⟩
  | fraction negative hw hds =>
    exact List.forall_mem_append.2 ⟨hsign _, List.forall_mem_append.2
      ⟨hdigits hw.1, List.forall_mem_cons.2 ⟨hmark _ (by decide), hdigits hds⟩⟩⟩
  | exponent negative hw hf hx =>
    exact List.forall_mem_append.2 ⟨hsign _, List.forall_mem_append.2
      ⟨hdigits hw.1, List.forall_mem_append.2 ⟨hfraction hf, hexponent hx⟩⟩⟩

/-! ### Blanks -/

theorem isBlanks_nil : IsBlanks [] := fun _ hc => (nomatch hc)

theorem isBlanks_append {a b : Text} : IsBlanks (a ++ b) ↔ IsBlanks a ∧ IsBlanks b := by
  simp only [IsBlanks, List.mem_append, or_imp, forall_and]

theorem Derives.pad_element {limit? : Option Nat} {b w : Text} {v : Json} (hb : IsBlanks b)
    (h : Derives limit? (.element v) w) : Derives limit? (.element v) (b ++ w) := by
  cases h with
  | element hbefore h hbehind =>
    rw [← List.append_assoc]
    exact .element (isBlanks_append.2 ⟨hb, hbefore⟩) h hbehind

theorem Derives.pad_items {limit? : Option Nat} {b w : Text} {vs : List Json} (hb : IsBlanks b)
    (h : Derives limit? (.items vs) w) : Derives limit? (.items vs) (b ++ w) := by
  cases h with
  | lastItem h => exact .lastItem (h.pad_element hb)
  | item h hrest =>
    rw [← List.append_assoc]
    exact .item (h.pad_element hb) hrest

theorem Derives.pad_members {limit? : Option Nat} {b w : Text} {ms : Members} (hb : IsBlanks b)
    (h : Derives limit? (.members ms) w) : Derives limit? (.members ms) (b ++ w) := by
  cases h with
  | lastMember hbefore hk hbehind h =>
    rw [← List.append_assoc]
    exact .lastMember (isBlanks_append.2 ⟨hb, hbefore⟩) hk hbehind h
  | member hbefore hk hbehind h hrest =>
    rw [← List.append_assoc]
    exact .member (isBlanks_append.2 ⟨hb, hbefore⟩) hk hbehind h hrest

/-! ### Surrogates -/

theorem joinPairs_literal (c : CodePoint) (us : List (CodePoint × Bool)) :
    joinPairs ((c, false) :: us) = c :: joinPairs us := by
  simp only [joinPairs]

theorem joinPairs_of_not_high {c : CodePoint} (hc : c.isHighSurrogate = false)
    (us : List (CodePoint × Bool)) : joinPairs ((c, true) :: us) = c :: joinPairs us := by
  match us with
  | [] => simp only [joinPairs]
  | (d, false) :: us => simp only [joinPairs]
  | (d, true) :: us => simp [joinPairs, hc]

theorem joinPairs_high_literal (c d : CodePoint) (us : List (CodePoint × Bool)) :
    joinPairs ((c, true) :: (d, false) :: us) = c :: d :: joinPairs us := by
  simp only [joinPairs]

theorem joinPairs_pair {c d : CodePoint} (hc : c.isHighSurrogate = true)
    (hd : d.isLowSurrogate = true) (us : List (CodePoint × Bool)) :
    joinPairs ((c, true) :: (d, true) :: us) = CodePoint.joinSurrogates c d :: joinPairs us := by
  simp [joinPairs, hc, hd]

theorem joinPairs_of_not_low {c d : CodePoint} (hd : d.isLowSurrogate = false)
    (us : List (CodePoint × Bool)) :
    joinPairs ((c, true) :: (d, true) :: us) = c :: joinPairs ((d, true) :: us) := by
  simp [joinPairs, hd]

example :
    joinPairs [(CodePoint.ofNat 0xD83D, true), (CodePoint.ofNat 0xD83D, true),
      (CodePoint.ofNat 0xDE00, true), (CodePoint.ofNat 0xDE00, false)] =
    [CodePoint.ofNat 0xD83D, CodePoint.ofNat 0x1F600, CodePoint.ofNat 0xDE00] := by decide

end Grammar

end Json

end CompletionWire
