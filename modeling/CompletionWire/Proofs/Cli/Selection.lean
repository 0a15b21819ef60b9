import CompletionWire.Cli.Run
import CompletionWire.Proofs.Text.Lowercase
import CompletionWire.Proofs.Text.Trimming

/-!
# Texts that select a backend

A setting is trimmed and lower-cased before it is looked up, by rules for all scripts. What these
rules let through is no more than the tags themselves with capitals of ASCII and blanks around them:
tags are letters of ASCII, and none has a `k`, the one letter that a code point beyond ASCII comes
to. Any other text is refused, and the refusal shows the text as it was given.
-/

namespace CompletionWire

theorem CodePoint.isBlank_of_asciiLower {c : CodePoint} (hfirst : 0x61 ≤ c.asciiLower.val)
    (hlast : c.asciiLower.val ≤ 0x7A) : c.isBlank = false := by
  have hletter : 0x41 ≤ c.val ∧ c.val ≤ 0x7A := by
    by_cases hcapital : 0x41 ≤ c.val ∧ c.val ≤ 0x5A
    · omega
    · rw [asciiLower, if_neg hcapital] at hfirst hlast
      omega
  simp only [isBlank, isWhiteSpace, isInformationSeparator, Bool.or_eq_false_iff,
    Bool.and_eq_false_iff, decide_eq_false_iff_not]
  omega

namespace Backend

/-- A text that is a backend's tag but for capitals of ASCII and blanks around it. -/
def IsNamedBy (b : Backend) (s : Text) : Prop :=
  ∃ name, name.map CodePoint.asciiLower = b.tag ∧ Text.Pads CodePoint.isBlank name s

theorem mem_tag (b : Backend) :
    ∀ d ∈ b.tag, 0x61 ≤ d.val ∧ d.val ≤ 0x7A ∧ d ≠ CodePoint.ofChar 'k' := by
  cases b <;> decide

theorem lower_eq_tag_iff {t : Text} {b : Backend} :
    t.lower = b.tag ↔ t.map CodePoint.asciiLower = b.tag := by
  refine Text.lower_eq_iff fun d hd => ?_
  obtain ⟨-, hlast, hk⟩ := mem_tag b d hd
  exact ⟨by omega, hk⟩

theorem ofSetting?_eq_some_iff {s : Text} {b : Backend} :
    ofSetting? s = some b ↔ b.IsNamedBy s := by
  rw [ofSetting?, ofTag?_eq_some_iff, eq_comm, lower_eq_tag_iff]
  constructor
  · intro h
    exact ⟨s.trim, h, Text.pads_trimBy _ s⟩
  · rintro ⟨name, hname, hpads⟩
    have hletters : ∀ c ∈ name, c.isBlank = false := by
      intro c hc
      obtain ⟨hfirst, hlast, -⟩ := mem_tag b _ (hname ▸ List.mem_map_of_mem hc)
      exact CodePoint.isBlank_of_asciiLower hfirst hlast
    rw [Text.trim, hpads.trimBy_eq hletters, hname]

/-- A capital with a dot is no capital of the small i. -/
example : ofSetting? (text "TG" ++ [⟨0x130, by decide⟩]) = none := by decide

end Backend

theorem Rejection.message_unknownAdaptor (s : Text) :
    (unknownAdaptor s).message = text "Unknown adaptor '" ++ s ++
      text "' (expected one of: huggingface, tgi, ollama, openai)" := by
  simp only [message, List.append_assoc]
  rfl

namespace Cli

/-- A text is read as a backend if it is the backend's tag but for capitals of ASCII and blanks around
it. Given as an option it then selects this backend, whatever the settings say, and any other text is
refused with a message that holds the text as it is. -/
theorem backend?_of_text (settings : Settings) (s : Text) :
    (∀ b, Backend.ofSetting? s = some b ↔ b.IsNamedBy s) ∧
    (∀ b, backend? (some s) settings = .ok (some b) ↔ b.IsNamedBy s) ∧
    (backend? (some s) settings = .error (.rejection (.unknownAdaptor s)) ↔
      ∀ b : Backend, ¬b.IsNamedBy s) ∧
    (Rejection.unknownAdaptor s).message = text "Unknown adaptor '" ++ s ++
      text "' (expected one of: huggingface, tgi, ollama, openai)" := by
  have hread : ∀ b, Backend.ofSetting? s = some b ↔ b.IsNamedBy s :=
    fun _ => Backend.ofSetting?_eq_some_iff
  refine ⟨hread, ?_, ?_, Rejection.message_unknownAdaptor s⟩
  · intro b
    simp only [← hread, backend?, Option.some_or]
    cases Backend.ofSetting? s <;> simp
  · simp only [← hread, backend?, Option.some_or]
    cases Backend.ofSetting? s <;> simp

end Cli

end CompletionWire
