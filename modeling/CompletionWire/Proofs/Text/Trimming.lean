import CompletionWire.Text.Blank
import Mathlib.Data.List.DropRight

/-!
# Trimmed texts

Trimming takes from a text what is padded to it and nothing else: whatever stands at the two ends
does not count, and what is left is the text with such ends put back. So a text comes to a word by
trimming if it is the word with padding around it, and only then, as long as nothing in the word
could be padding itself.
-/

namespace CompletionWire

namespace Text

variable {p : CodePoint → Bool} {word t : Text}

/-- A word with code points of a class in front of it and behind it. -/
def Pads (p : CodePoint → Bool) (word t : Text) : Prop :=
  ∃ front back, (∀ c ∈ front, p c = true) ∧ (∀ c ∈ back, p c = true) ∧ t = front ++ (word ++ back)

theorem pads_trimBy (p : CodePoint → Bool) (t : Text) : Pads p (t.trimBy p) t := by
  refine ⟨t.takeWhile p, (t.dropWhile p).rtakeWhile p, fun c hc => List.mem_takeWhile_imp hc,
    fun c hc => List.mem_rtakeWhile_imp hc, ?_⟩
  have hback : t.trimBy p ++ (t.dropWhile p).rtakeWhile p = t.dropWhile p :=
    List.rdropWhile_append_rtakeWhile
  rw [hback, List.takeWhile_append_dropWhile]

theorem dropWhile_append_of_forall {u : Text} (hu : u ≠ []) (hforall : ∀ c ∈ u, p c = false)
    (v : Text) : (u ++ v).dropWhile p = u ++ v := by
  obtain ⟨c, u, rfl⟩ := List.exists_cons_of_ne_nil hu
  refine List.dropWhile_cons_of_neg ?_
  rw [hforall c List.mem_cons_self]
  decide

theorem Pads.trimBy_eq (h : Pads p word t) (hword : ∀ c ∈ word, p c = false) :
    t.trimBy p = word := by
  obtain ⟨front, back, hfront, hback, rfl⟩ := h
  rw [trimBy, List.dropWhile_append_of_pos hfront]
  by_cases hne : word = []
  · rw [hne, List.nil_append, List.dropWhile_eq_nil_iff.2 hback]
    rfl
  · have hbehind : (word ++ back).reverse.dropWhile p = word.reverse := by
      rw [List.reverse_append,
        List.dropWhile_append_of_pos fun c hc => hback c (List.mem_reverse.1 hc)]
      have hend := dropWhile_append_of_forall (mt List.reverse_eq_nil_iff.1 hne)
        (fun c hc => hword c (List.mem_reverse.1 hc)) []
      rwa [List.append_nil] at hend
    rw [dropWhile_append_of_forall hne hword, hbehind, List.reverse_reverse]

theorem trimBy_trimBy (p : CodePoint → Bool) (t : Text) : (t.trimBy p).trimBy p = t.trimBy p := by
  have hfront : (t.trimBy p).dropWhile p = t.trimBy p := by
    cases htrim : t.trimBy p with
    | nil => rfl
    | cons c rest =>
      obtain ⟨back, hback⟩ : t.trimBy p <+: t.dropWhile p := List.rdropWhile_prefix p _
      have hfirst := List.head?_dropWhile_not p t
      rw [← hback, htrim] at hfirst
      exact List.dropWhile_cons_of_neg (Bool.not_eq_true _ ▸ hfirst)
  have hback : ((t.trimBy p).reverse.dropWhile p).reverse = t.trimBy p :=
    List.rdropWhile_idempotent p _
  rw [trimBy, hfront, hback]

theorem trim_trim (t : Text) : t.trim.trim = t.trim := trimBy_trimBy _ t

theorem ne_nil_of_trim (h : t.trim ≠ []) : t ≠ [] := by
  rintro rfl
  exact h rfl

end Text

end CompletionWire
