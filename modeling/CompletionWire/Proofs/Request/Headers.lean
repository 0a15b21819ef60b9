import CompletionWire.Proofs.Text.Utf8
import CompletionWire.Request.Headers

/-!
# Headers that can be sent

A header is legal or it is not, and a legal one has bytes or it has none. The headers of a call are
looked at in order, and the first one that cannot be sent decides what is reported. No two of them
have one name.
-/

namespace CompletionWire

namespace Request

/-! ### Header values -/

/-- A value that a header may have: it is legal and has a byte form. -/
def IsFieldText (value : Text) : Prop := value.all isFieldCodePoint = true ∧ value.IsUnicode

instance (value : Text) : Decidable (IsFieldText value) := inferInstanceAs (Decidable (_ ∧ _))

theorem header_of_isFieldText {value : Text} (h : IsFieldText value) (backend : Backend)
    (name : Text) : header backend name value = .ok (name, value) := by
  simp only [header, headerValue, if_pos h.1, Text.encode?_eq_ok_iff.2 ⟨h.2, rfl⟩]

theorem header_of_illegal {value : Text} (h : value.all isFieldCodePoint = false)
    (backend : Backend) (name : Text) :
    header backend name value = .error (.failure (.invalidHeader name (some backend))) := by
  simp only [header, headerValue, h, Bool.false_eq_true, if_false]

theorem header_of_encode?_error {value : Text} {run : LoneSurrogates}
    (h : value.all isFieldCodePoint = true) (hrun : value.encode? = .error run) (backend : Backend)
    (name : Text) : header backend name value = .error (.rejection (.notUnicode run)) := by
  simp only [header, headerValue, if_pos h, hrun]

theorem not_isFieldText_cases {value : Text} (h : ¬IsFieldText value) :
    value.all isFieldCodePoint = false ∨
      value.all isFieldCodePoint = true ∧ ∃ run, value.encode? = .error run := by
  cases hlegal : value.all isFieldCodePoint with
  | false => exact .inl rfl
  | true =>
    cases hencode : value.encode? with
    | ok bytes => exact absurd ⟨hlegal, (Text.encode?_eq_ok_iff.1 hencode).1⟩ h
    | error run => exact .inr ⟨rfl, run, rfl⟩

theorem exists_header_eq_error {value : Text} (h : ¬IsFieldText value) (backend : Backend)
    (name : Text) : ∃ m, header backend name value = .error m := by
  rcases not_isFieldText_cases h with hillegal | ⟨hlegal, run, hrun⟩
  · exact ⟨_, header_of_illegal hillegal backend name⟩
  · exact ⟨_, header_of_encode?_error hlegal hrun backend name⟩

end Request

namespace Request

def tokenTexts (token? : Option Text) (editor : Editor) (version : Text) : Headers :=
  (text "User-Agent", userAgent editor version) ::
    (token?.map fun token => (text "Authorization", text "Bearer " ++ token)).toList

/-- The first header whose value it may not have. -/
def faulty? (headers : Headers) : Option (Text × Text) := headers.find? (¬IsFieldText ·.2)

theorem faulty?_eq_none {hs : Headers} (h : ∀ p ∈ hs, IsFieldText p.2) : faulty? hs = none := by
  rw [faulty?, List.find?_eq_none]
  intro p hp
  simpa using h p hp

theorem tokenHeaders_cases (backend : Backend) (token? : Option Text) (editor : Editor)
    (version : Text) :
    (faulty? (tokenTexts token? editor version) = none ∧
      tokenHeaders backend token? editor version = .ok (tokenTexts token? editor version)) ∨
    ∃ name value m, faulty? (tokenTexts token? editor version) = some (name, value) ∧
      header backend name value = .error m ∧
      tokenHeaders backend token? editor version = .error m := by
  rw [tokenHeaders, tokenTexts, faulty?]
  by_cases hagent : IsFieldText (userAgent editor version)
  · rw [header_of_isFieldText hagent]
    cases token? with
    | none => exact .inl ⟨by simp [hagent], rfl⟩
    | some token =>
      by_cases htoken : IsFieldText (text "Bearer " ++ token)
      · simp only [header_of_isFieldText htoken]
        exact .inl ⟨by simp [hagent, htoken], rfl⟩
      · obtain ⟨m, hm⟩ := exists_header_eq_error htoken backend (text "Authorization")
        simp only [hm]
        exact .inr ⟨_, _, m, by simp [hagent, htoken], hm, rfl⟩
  · obtain ⟨m, hm⟩ := exists_header_eq_error hagent backend (text "User-Agent")
    rw [hm]
    exact .inr ⟨_, _, m, by simp [hagent], hm, rfl⟩

theorem headers_eq_tokenHeaders {selected? : Option Backend}
    (h : Backend.resolve selected? ≠ .ollama) (token? : Option Text) (editor : Editor)
    (version : Text) :
    headers selected? token? editor version =
      tokenHeaders (Backend.resolve selected?) token? editor version := by
  rw [headers]
  cases hbackend : Backend.resolve selected? with
  | ollama => exact absurd hbackend h
  | huggingFace | tgi | openAi => rfl

def faultyHeader? (selected? : Option Backend) (token? : Option Text) (editor : Editor)
    (version : Text) : Option (Text × Text) :=
  if Backend.resolve selected? = .ollama then none else faulty? (tokenTexts token? editor version)

theorem headers_cases (selected? : Option Backend) (token? : Option Text) (editor : Editor)
    (version : Text) :
    (faultyHeader? selected? token? editor version = none ∧ ∃ hs,
      headers selected? token? editor version = .ok hs) ∨
    ∃ name value m, faultyHeader? selected? token? editor version = some (name, value) ∧
      header (Backend.resolve selected?) name value = .error m ∧
      headers selected? token? editor version = .error m := by
  rw [faultyHeader?]
  by_cases hollama : Backend.resolve selected? = .ollama
  · rw [if_pos hollama, headers, hollama]
    exact .inl ⟨rfl, [], rfl⟩
  · rw [if_neg hollama, headers_eq_tokenHeaders hollama]
    rcases tokenHeaders_cases _ token? editor version with ⟨hnone, hheaders⟩ | hfaulty
    · exact .inl ⟨hnone, _, hheaders⟩
    · exact .inr hfaulty

theorem not_isFieldText_of_faultyHeader? {selected? : Option Backend} {token? : Option Text}
    {editor : Editor} {version name value : Text}
    (h : faultyHeader? selected? token? editor version = some (name, value)) :
    ¬IsFieldText value := by
  unfold faultyHeader? faulty? at h
  split_ifs at h
  simpa using List.find?_some h

/-- No two headers have one name, whatever their capitals. -/
theorem nodup_headers {selected? : Option Backend} {token? : Option Text} {editor : Editor}
    {version : Text} {hs : Headers} (h : headers selected? token? editor version = .ok hs) :
    (hs.lowered.map Prod.fst).Nodup := by
  have htexts : ((tokenTexts token? editor version).lowered.map Prod.fst).Nodup := by
    cases token? with
    | none => exact (show [text "user-agent"].Nodup by decide)
    | some token => exact (show [text "user-agent", text "authorization"].Nodup by decide)
  by_cases hollama : Backend.resolve selected? = .ollama
  · rw [headers, hollama] at h
    exact Except.ok.inj h ▸ List.nodup_nil
  · rw [headers_eq_tokenHeaders hollama] at h
    rcases tokenHeaders_cases _ token? editor version with ⟨-, hok⟩ | ⟨_, _, m, -, -, herror⟩
    · exact Except.ok.inj (hok.symm.trans h) ▸ htexts
    · cases herror.symm.trans h

end Request

end CompletionWire
