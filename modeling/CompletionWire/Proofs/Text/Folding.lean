import CompletionWire.Backend
import CompletionWire.Editor
import CompletionWire.Proofs.Text.Lowercase
import CompletionWire.Proofs.Text.Trimming

/-!
# Blanks and capitals

A text that has been trimmed has nothing more to be trimmed of, so a setting may be trimmed before it
is read. An exact tag stays as it is, and hence a text that is one but for blanks around it and
capitals in it is no exact tag itself.
-/

namespace CompletionWire

theorem Backend.ofSetting?_trim (t : Text) : ofSetting? t.trim = ofSetting? t := by
  rw [ofSetting?, ofSetting?, Text.trim_trim]

namespace Editor

variable {t : Text} {e : Editor}

/-- An exact tag has no blanks around it and no capitals. -/
theorem trim_lower_of_ofTag? (h : ofTag? t = some e) : t.trim.lower = t := by
  have htrim : e.tag.trim = e.tag := by cases e <;> decide
  have hascii : ∀ c ∈ e.tag, c.val < 0x80 := by cases e <;> decide
  have hsmall : e.tag.map CodePoint.asciiLower = e.tag := by cases e <;> decide
  rw [← ofTag?_eq_some_iff.1 h, htrim, Text.lower_of_isAscii hascii, hsmall]

theorem ofTag?_eq_none_of_folded (htag : e.tag = t.trim.lower) (hother : e.tag ≠ t) :
    ofTag? t = none := by
  cases hexact : ofTag? t with
  | none => rfl
  | some _ => exact absurd (htag.trans (trim_lower_of_ofTag? hexact)) hother

end Editor

end CompletionWire
