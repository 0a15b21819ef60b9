import CompletionWire.Json.Reader
import CompletionWire.Proofs.Json.Grammar

/-!
# Reading strings

The reader keeps a high surrogate back until it has seen what follows, while the grammar joins the
code points of a string when all its units are there. What ties the two is the text that a piece
already read and the units still to come stand for together: every step of the reader moves one unit
from the second to the first and leaves that text alone.
-/

namespace CompletionWire

namespace Json

namespace Reader

open Grammar

/-! ### Escapes -/

theorem escaped?_eq_some_iff {e c : CodePoint} :
    escaped? e = some c ↔ (e.val, c.val) ∈ shortEscapes := by
  constructor
  · intro h
    unfold escaped? at h
    split_ifs at h with hself hb hf hn hr ht
    · obtain rfl : e = c := Option.some.inj h
      rcases hself with h | h | h <;> rw [h] <;> decide
    · rw [hb, ← Option.some.inj h]
      decide
    · rw [hf, ← Option.some.inj h]
      decide
    · rw [hn, ← Option.some.inj h]
      decide
    · rw [hr, ← Option.some.inj h]
      decide
    · rw [ht, ← Option.some.inj h]
      decide
  · intro h
    have hall : ∀ q ∈ shortEscapes,
        escaped? (CodePoint.ofNat q.1) = some (CodePoint.ofNat q.2) := by decide
    rw [← CodePoint.ofNat_val e, ← CodePoint.ofNat_val c]
    exact hall (e.val, c.val) h

theorem hexCodePoint?_eq_some_iff {a b c d x : CodePoint} :
    hexCodePoint? a b c d = some x ↔
      ∃ p q r s, a.hexValue? = some p ∧ b.hexValue? = some q ∧ c.hexValue? = some r ∧
        d.hexValue? = some s ∧ CodePoint.ofNat (Nat.ofDigits 16 [s, r, q, p]) = x := by
  have hvalue (p q r s : Nat) :
      Nat.ofDigits 16 [s, r, q, p] = ((p * 16 + q) * 16 + r) * 16 + s := by
    simp only [Nat.ofDigits_cons, Nat.ofDigits_nil]
    ring
  simp only [hexCodePoint?, hvalue, Option.bind_eq_bind, Option.bind_eq_some_iff, pure,
    Option.some.injEq]
  constructor
  · intro h
    obtain ⟨p, hp, q, hq, r, hr, s, hs, hx⟩ := h
    exact ⟨p, q, r, s, hp, hq, hr, hs, hx⟩
  · intro h
    obtain ⟨p, q, r, s, hp, hq, hr, hs, hx⟩ := h
    exact ⟨p, hp, q, hq, r, hr, s, hs, hx⟩

/-! ### Pieces -/

namespace Piece

/-- Only a high surrogate is kept back. -/
def Sound (p : Piece) : Prop := ∀ c, p.high? = some c → c.isHighSurrogate = true

def followedBy (p : Piece) (us : List (CodePoint × Bool)) : Text :=
  p.done.reverse ++ joinPairs (p.high?.toList.map (·, true) ++ us)

def add (p : Piece) (c : CodePoint) (numbered : Bool) : Piece :=
  if numbered then p.pushEscaped c else p.push c

theorem flush_reverse (p : Piece) : p.flush.reverse = p.followedBy [] := by
  obtain ⟨done, _ | c⟩ := p <;> simp [flush, followedBy, joinPairs]

theorem sound_add {p : Piece} (hp : p.Sound) (c : CodePoint) (numbered : Bool) :
    (p.add c numbered).Sound := by
  intro d hd
  obtain ⟨done, high?⟩ := p
  cases numbered with
  | false => simp [add, push] at hd
  | true =>
    cases high? with
    | none =>
      by_cases hc : c.isHighSurrogate = true
      · simp only [add, pushEscaped, hc, if_true, Option.some.injEq] at hd
        rwa [← hd]
      · simp [add, pushEscaped, hc, push] at hd
    | some high =>
      by_cases hlow : c.isLowSurrogate = true
      · simp [add, pushEscaped, hlow] at hd
      · by_cases hc : c.isHighSurrogate = true
        · simp only [add, pushEscaped, hlow, hc, if_true, Option.some.injEq,
            Bool.false_eq_true, if_false] at hd
          rwa [← hd]
        · simp [add, pushEscaped, hlow, hc, push] at hd

theorem followedBy_add {p : Piece} (hp : p.Sound) (c : CodePoint) (numbered : Bool)
    (us : List (CodePoint × Bool)) :
    (p.add c numbered).followedBy us = p.followedBy ((c, numbered) :: us) := by
  obtain ⟨done, high?⟩ := p
  cases numbered with
  | false =>
    cases high? with
    | none => simp [add, push, flush, followedBy, joinPairs_literal]
    | some d => simp [add, push, flush, followedBy, joinPairs_high_literal]
  | true =>
    cases high? with
    | none =>
      cases hc : c.isHighSurrogate with
      | true => simp [add, pushEscaped, hc, followedBy]
      | false => simp [add, pushEscaped, hc, push, flush, followedBy, joinPairs_of_not_high]
    | some d =>
      -- what is kept back is a high surrogate, so a low one joins it and nothing else does
      have hd : d.isHighSurrogate = true := hp d rfl
      cases hlow : c.isLowSurrogate with
      | true => simp [add, pushEscaped, hlow, followedBy, joinPairs_pair hd hlow]
      | false =>
        cases hc : c.isHighSurrogate with
        | true => simp [add, pushEscaped, hlow, hc, followedBy, joinPairs_of_not_low hlow]
        | false =>
          simp [add, pushEscaped, hlow, hc, push, flush, followedBy, joinPairs_of_not_low hlow,
            joinPairs_of_not_high hc]

/-- What is left of a text writes, up to its closing mark, the rest of a string that the piece
begins. -/
def Closes (p : Piece) (t s rest : Text) : Prop :=
  ∃ w us, IsUnits w us ∧ t = w ++ Text.doubleQuote :: rest ∧ s = p.followedBy us

theorem closes_unit {p : Piece} (hp : p.Sound) {w ws s rest : Text} {c : CodePoint}
    {numbered : Bool} (hunit : IsUnit w c numbered) (h : (p.add c numbered).Closes ws s rest) :
    p.Closes (w ++ ws) s rest := by
  obtain ⟨w', us, hunits, hws, hs⟩ := h
  refine ⟨w ++ w', (c, numbered) :: us, .cons hunit hunits, ?_, ?_⟩
  · rw [hws, List.append_assoc]
  · rw [hs, followedBy_add hp]

end Piece

/-! ### Strings -/

theorem string_doubleQuote (start : Text) (p : Piece) (rest : Text) :
    string start p (Text.doubleQuote :: rest) = .ok (p.followedBy [], rest) := by
  rw [string.eq_def, ← Piece.flush_reverse]
  rfl

theorem string_literal {c : CodePoint} (hc : 0x20 ≤ c.val) (hquote : c.val ≠ 0x22)
    (hbackslash : c.val ≠ 0x5C) (start : Text) (p : Piece) (rest : Text) :
    string start p (c :: rest) = string start (p.add c false) rest := by
  have hlow : ¬ c.val < 0x20 := by omega
  rw [string.eq_def]
  simp only [hquote, hbackslash, hlow, if_false]
  rfl

theorem string_short {e c : CodePoint} (h : escaped? e = some c) (start : Text) (p : Piece)
    (rest : Text) :
    string start p (Text.backslash :: e :: rest) = string start (p.add c false) rest := by
  have hu : e ≠ CodePoint.ofChar 'u' := by
    intro heq
    subst heq
    simp [show escaped? (CodePoint.ofChar 'u') = none by decide] at h
  rw [string.eq_def]
  simp only [show Text.backslash.val = 0x5C from rfl, hu, h, if_false]
  rfl

theorem string_numbered {a b c d x : CodePoint} (h : hexCodePoint? a b c d = some x)
    (start : Text) (p : Piece) (next : CodePoint) (rest : Text) :
    string start p (Text.backslash :: CodePoint.ofChar 'u' :: a :: b :: c :: d :: next :: rest) =
      string start (p.add x true) (next :: rest) := by
  rw [string.eq_def]
  simp only [show Text.backslash.val = 0x5C from rfl, h, if_true]
  rfl

theorem string_unit {w : Text} {c : CodePoint} {numbered : Bool} (h : IsUnit w c numbered)
    (start : Text) (p : Piece) (next : CodePoint) (rest : Text) :
    string start p (w ++ next :: rest) = string start (p.add c numbered) (next :: rest) := by
  cases h with
  | literal hc hquote hbackslash =>
    exact string_literal hc (fun h => hquote (CodePoint.ext h))
      (fun h => hbackslash (CodePoint.ext h)) start p _
  | short h => exact string_short (escaped?_eq_some_iff.2 h) start p _
  | numbered ha hb hc hd =>
    exact string_numbered (hexCodePoint?_eq_some_iff.2 ⟨_, _, _, _, ha, hb, hc, hd, rfl⟩) start p
      next rest

theorem string_of_isUnits {w : Text} {us : List (CodePoint × Bool)} (h : IsUnits w us)
    (start : Text) {p : Piece} (hp : p.Sound) (rest : Text) :
    string start p (w ++ Text.doubleQuote :: rest) = .ok (p.followedBy us, rest) := by
  induction h generalizing p with
  | nil => exact string_doubleQuote start p rest
  | @cons w ws c numbered us hunit hrest ih =>
    obtain ⟨next, later, hnext⟩ :
        ∃ next later, ws ++ Text.doubleQuote :: rest = next :: later := by
      cases ws with
      | nil => exact ⟨_, _, rfl⟩
      | cons next ws => exact ⟨next, ws ++ Text.doubleQuote :: rest, rfl⟩
    rw [List.append_assoc, hnext, string_unit hunit, ← hnext, ih (Piece.sound_add hp c numbered),
      Piece.followedBy_add hp]

theorem closes_of_string {start t s rest : Text} {p : Piece} (hp : p.Sound)
    (h : string start p t = .ok (s, rest)) : p.Closes t s rest := by
  fun_induction string start p t with
  | case2 p c behind hquote =>
    obtain ⟨rfl, rfl⟩ := Prod.mk.inj (Except.ok.inj h)
    obtain rfl : c = Text.doubleQuote := CodePoint.ext hquote
    exact ⟨[], [], .nil, rfl, p.flush_reverse⟩
  | case4 p c hquote hbackslash h₁ h₂ h₃ h₄ next later x hx ih =>
    obtain rfl : c = Text.backslash := CodePoint.ext hbackslash
    obtain ⟨_, _, _, _, ha, hb, hc, hd, rfl⟩ := hexCodePoint?_eq_some_iff.1 hx
    exact Piece.closes_unit hp (.numbered ha hb hc hd) (ih (Piece.sound_add hp _ true) h)
  | case7 p c hquote hbackslash e behind hu x hx ih =>
    obtain rfl : c = Text.backslash := CodePoint.ext hbackslash
    exact Piece.closes_unit hp (.short (escaped?_eq_some_iff.1 hx))
      (ih (Piece.sound_add hp _ false) h)
  | case10 p c behind hquote hbackslash hlow ih =>
    have hunit : IsUnit [c] c false :=
      .literal (Nat.le_of_not_lt hlow) (fun hc => hquote (by rw [hc]; rfl))
        (fun hc => hbackslash (by rw [hc]; rfl))
    exact Piece.closes_unit hp hunit (ih (Piece.sound_add hp _ false) h)
  | case1 | case3 | case5 | case6 | case8 | case9 => cases h

theorem exists_cons_of_isString {t s : Text} (h : IsString t s) :
    ∃ w, t = Text.doubleQuote :: w := by
  obtain ⟨w, us, -, rfl, -⟩ := h
  exact ⟨_, rfl⟩

/-- Behind an opening mark, the reader takes exactly the texts of strings. -/
theorem string_eq_ok_iff {start t s rest : Text} :
    string start {} t = .ok (s, rest) ↔
      ∃ w, IsString (Text.doubleQuote :: w) s ∧ t = w ++ rest := by
  have hp : ({} : Piece).Sound := fun _ h => by cases h
  constructor
  · intro h
    obtain ⟨w, us, hunits, ht, hs⟩ := closes_of_string hp h
    exact ⟨w ++ [Text.doubleQuote], ⟨w, us, hunits, rfl, hs⟩, by
      rw [ht, List.append_assoc, List.singleton_append]⟩
  · intro h
    obtain ⟨written, ⟨w, us, hunits, hw, rfl⟩, rfl⟩ := h
    obtain rfl : written = w ++ [Text.doubleQuote] := List.tail_eq_of_cons_eq hw
    rw [List.append_assoc, List.singleton_append]
    exact string_of_isUnits hunits start hp rest

end Reader

end Json

end CompletionWire
