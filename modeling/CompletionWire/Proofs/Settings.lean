import CompletionWire.Proofs.Decimal.Numerals
import CompletionWire.Settings

/-!
# Settings of retries

The number of attempts and the two bounds of the waits are whole numbers that variables hold, and
each of them is read in the same way: a numeral is the number that it writes, and any other text
leaves the setting as if the variable were missing.
-/

namespace CompletionWire

inductive RetrySetting
  | attempts
  | leastWait
  | mostWait

namespace RetrySetting

def variableName : RetrySetting → Text
  | attempts => text "LLM_RETRY_ATTEMPTS"
  | leastWait => text "LLM_RETRY_MIN_WAIT"
  | mostWait => text "LLM_RETRY_MAX_WAIT"

def standard : RetrySetting → Int
  | attempts => 3
  | leastWait => 1
  | mostWait => 10

def value (s : Settings) : RetrySetting → Int
  | attempts => s.attempts
  | leastWait => s.leastWait
  | mostWait => s.mostWait

theorem value_ofEnvironment (setting : RetrySetting) (env : Environment) :
    setting.value (.ofEnvironment env) =
      ((env.find? setting.variableName).bind Numeral.int?).getD setting.standard := by
  cases setting <;> rfl

theorem value_insert (setting : RetrySetting) (env : Environment) (s : Text) :
    setting.value (.ofEnvironment (env.insert setting.variableName s)) =
      (Numeral.int? s).getD setting.standard := by
  rw [value_ofEnvironment, Environment.find?_insert_self, Option.bind_some]

/-- A numeral that one of the variables is set to is read as the number that it writes, and any
other text leaves the standard value. So the decimal digits of a whole number are read back unless
they are too many for a numeral. -/
theorem value_of_text (setting : RetrySetting) (env : Environment) :
    let read (s : Text) := setting.value (.ofEnvironment (env.insert setting.variableName s))
    (∀ s n, Numeral.IsNumeral s n → read s = n) ∧
    (∀ s, (∀ n, ¬Numeral.IsNumeral s n) → read s = setting.standard) ∧
    (∀ n : Int, (Text.ofNat n.natAbs).length ≤ 4300 → read (Text.ofInt n) = n) := by
  intro read
  have hnumeral : ∀ s n, Numeral.IsNumeral s n → read s = n := by
    intro s n h
    rw [show read s = _ from value_insert setting env s, Numeral.int?_of_isNumeral h,
      Option.getD_some]
  refine ⟨hnumeral, ?_, ?_⟩
  · intro s h
    have hnone : Numeral.int? s = none :=
      Option.eq_none_iff_forall_ne_some.2 fun n => mt Numeral.int?_eq_some_iff.1 (h n)
    rw [show read s = _ from value_insert setting env s, hnone, Option.getD_none]
  · intro n hlength
    exact hnumeral _ n (Numeral.isNumeral_ofInt hlength)

/-- Digits of two scripts behind a sign and between blanks beyond ASCII are read, underscores that
follow each other are not, and a negative number comes back. -/
theorem value_of_text_mixture :
    let noBreakSpace : CodePoint := ⟨0xA0, by decide⟩
    let arabicSeven : CodePoint := ⟨0x667, by decide⟩
    let wideSpace : CodePoint := ⟨0x3000, by decide⟩
    let mixture := noBreakSpace :: (text "-1_" ++ [arabicSeven, wideSpace])
    let read (s : Text) := RetrySetting.leastWait.value
      (.ofEnvironment (Environment.insert RetrySetting.leastWait.variableName s []))
    Numeral.IsNumeral mixture (-17) ∧ read mixture = -17 ∧
      (∀ n, ¬Numeral.IsNumeral (text "1__7") n) ∧ read (text "1__7") = 1 ∧
      (Text.ofNat 907).length ≤ 4300 ∧ read (Text.ofInt (-907)) = -907 := by
  intro noBreakSpace arabicSeven wideSpace mixture read
  obtain ⟨hnumeral, hother, hback⟩ := value_of_text .leastWait []
  have hdigits : Numeral.AreDigits (text "1_" ++ [arabicSeven]) [1, 7] :=
    .first (by decide) (.separated (by decide) .nil)
  have hpads : Text.Pads Numeral.isPadding
      ([Numeral.minusSign] ++ (text "1_" ++ [arabicSeven])) mixture :=
    ⟨[noBreakSpace], [wideSpace], by decide, by decide, by decide⟩
  have hsign : ([Numeral.minusSign], true) ∈ Numeral.signs := by decide
  have hmixture : Numeral.IsNumeral mixture (-17) := .padded hsign hdigits (by decide) hpads
  have hdoubled : ∀ n, ¬Numeral.IsNumeral (text "1__7") n := by
    intro n h
    have hnone : Numeral.int? (text "1__7") = none := by decide
    cases hnone.symm.trans (Numeral.int?_of_isNumeral h)
  have hlength : (Text.ofNat 907).length ≤ 4300 := by decide
  exact ⟨hmixture, hnumeral _ _ hmixture, hdoubled, hother _ hdoubled, hlength,
    hback (-907) hlength⟩

end RetrySetting

end CompletionWire
