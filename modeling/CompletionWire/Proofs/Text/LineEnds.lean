import CompletionWire.Text.Newline
import Mathlib.Data.List.Basic

/-!
# Texts that differ in their line ends

Where one of two texts has carriage returns and line feeds, the other one has some as well, whichever
and however many, and all else is the same. A text is of this kind with itself when its line ends are
unified.
-/

namespace CompletionWire

def CodePoint.IsLineEnd (c : CodePoint) : Prop := c = .lineFeed ∨ c = .carriageReturn

theorem CodePoint.IsLineEnd.val {c : CodePoint} (h : c.IsLineEnd) : c.val = 10 ∨ c.val = 13 := by
  rcases h with rfl | rfl
  · exact .inl rfl
  · exact .inr rfl

theorem CodePoint.IsLineEnd.ne {c : CodePoint} (h : c.IsLineEnd) (d : CodePoint)
    (hd : d.val ≠ 10 ∧ d.val ≠ 13 := by decide) : c ≠ d := by
  rintro rfl
  exact h.val.elim hd.1 hd.2

namespace Text

def IsLineEnds (t : Text) : Prop := t ≠ [] ∧ ∀ c ∈ t, c.IsLineEnd

theorem isLineEnds_singleton {c : CodePoint} (h : c.IsLineEnd) : IsLineEnds [c] :=
  ⟨List.cons_ne_nil _ _, List.forall_mem_singleton.2 h⟩

/-- Two texts are the same but for their line ends: where one has some, the other one has some. -/
inductive SameLines : Text → Text → Prop
  | nil : SameLines [] []
  | cons {c : CodePoint} {t u : Text} (hc : ¬c.IsLineEnd) (h : SameLines t u) :
      SameLines (c :: t) (c :: u)
  | ends {a b t u : Text} (ha : IsLineEnds a) (hb : IsLineEnds b) (h : SameLines t u) :
      SameLines (a ++ t) (b ++ u)

inductive SameStart : Text → Text → Prop
  | nil : SameStart [] []
  | cons {c : CodePoint} {t u : Text} (hc : ¬c.IsLineEnd) (h : SameLines t u) :
      SameStart (c :: t) (c :: u)
  | ends {c d : CodePoint} (hc : c.IsLineEnd) (hd : d.IsLineEnd) (t u : Text) :
      SameStart (c :: t) (d :: u)

namespace SameLines

variable {t u : Text}

theorem start (h : SameLines t u) : SameStart t u := by
  cases h with
  | nil => exact .nil
  | cons hc h => exact .cons hc h
  | @ends a b t u ha hb h =>
    cases a with
    | nil => exact absurd rfl ha.1
    | cons c a =>
      cases b with
      | nil => exact absurd rfl hb.1
      | cons d b => exact .ends (ha.2 c (.head _)) (hb.2 d (.head _)) (a ++ t) (b ++ u)

theorem symm (h : SameLines t u) : SameLines u t := by
  induction h with
  | nil => exact .nil
  | cons hc _ ih => exact .cons hc ih
  | ends ha hb _ ih => exact .ends hb ha ih

theorem exists_append {w rest : Text} (hw : ∀ c ∈ w, ¬c.IsLineEnd)
    (h : SameLines (w ++ rest) u) : ∃ rest', u = w ++ rest' ∧ SameLines rest rest' := by
  induction w generalizing u with
  | nil => exact ⟨u, rfl, h⟩
  | cons c w ih =>
    obtain ⟨hc, hw⟩ := List.forall_mem_cons.1 hw
    rw [List.cons_append] at h
    generalize hwhole : c :: (w ++ rest) = whole at h
    cases h.start with
    | nil => cases hwhole
    | cons hd hrest =>
      obtain ⟨rfl, rfl⟩ := List.cons.inj hwhole
      obtain ⟨rest', rfl, hbehind⟩ := ih hw hrest
      exact ⟨rest', rfl, hbehind⟩
    | ends hd =>
      obtain ⟨rfl, -⟩ := List.cons.inj hwhole
      exact absurd hd hc

theorem takeWhile_dropWhile {p : CodePoint → Bool} (hp : ∀ c, c.IsLineEnd → p c = false)
    (h : SameLines t u) :
    t.takeWhile p = u.takeWhile p ∧ SameLines (t.dropWhile p) (u.dropWhile p) := by
  induction h with
  | nil => exact ⟨rfl, .nil⟩
  | @cons c t u hc h ih =>
    cases hpc : p c with
    | true => simpa [hpc] using ih
    | false => simpa [hpc] using SameLines.cons hc h
  | @ends a b t u ha hb h ih =>
    obtain ⟨c, a, rfl⟩ := List.exists_cons_of_ne_nil ha.1
    obtain ⟨d, b, rfl⟩ := List.exists_cons_of_ne_nil hb.1
    have hpc : p c = false := hp c (ha.2 c (.head _))
    have hpd : p d = false := hp d (hb.2 d (.head _))
    simpa [hpc, hpd] using SameLines.ends ha hb h

end SameLines

/-! ### One line end -/

/-- What comes of a text behind a code point when its line ends are unified. -/
def unifiedBehind (previous : CodePoint) (t : Text) : Text :=
  (List.zip (previous :: t) t).flatMap fun (previous, c) => lineEnd previous c

theorem unifiedBehind_cons (previous c : CodePoint) (t : Text) :
    unifiedBehind previous (c :: t) = lineEnd previous c ++ unifiedBehind c t := rfl

theorem sameLines_unifiedBehind (t : Text) :
    (∀ previous, previous ≠ .carriageReturn → SameLines t (unifiedBehind previous t)) ∧
      SameLines (.carriageReturn :: t) (.lineFeed :: unifiedBehind .carriageReturn t) := by
  have hfeed : CodePoint.lineFeed.IsLineEnd := .inl rfl
  have hreturn : CodePoint.carriageReturn.IsLineEnd := .inr rfl
  have hone := isLineEnds_singleton hfeed
  induction t with
  | nil => exact ⟨fun _ _ => .nil, .ends (isLineEnds_singleton hreturn) hone .nil⟩
  | cons c t ih =>
    obtain ⟨hrest, hbehind⟩ := ih
    have hplain {previous : CodePoint} (hc : ¬(c = .lineFeed ∧ previous = .carriageReturn)) :
        SameLines (c :: t) (unifiedBehind previous (c :: t)) := by
      rw [unifiedBehind_cons, lineEnd, if_neg hc]
      by_cases hcr : c = .carriageReturn
      · subst hcr
        exact hbehind
      · rw [if_neg hcr]
        by_cases hlf : c = .lineFeed
        · subst hlf
          exact .ends hone hone (hrest _ (by decide))
        · exact .cons (fun h => h.elim hlf hcr) (hrest _ hcr)
    refine ⟨fun previous hprevious => hplain fun h => hprevious h.2, ?_⟩
    by_cases hlf : c = .lineFeed
    · subst hlf
      have hpair : IsLineEnds [.carriageReturn, .lineFeed] :=
        ⟨List.cons_ne_nil _ _, List.forall_mem_cons.2 ⟨hreturn, hone.2⟩⟩
      exact .ends hpair hone (hrest _ (by decide))
    · exact .ends (isLineEnds_singleton hreturn) hone (hplain fun h => hlf h.1)

/-- Unifying the line ends of a text changes nothing else. -/
theorem sameLines_unifyLineEnds (t : Text) : SameLines t t.unifyLineEnds :=
  (sameLines_unifiedBehind t).1 _ (by decide)

end Text

end CompletionWire
