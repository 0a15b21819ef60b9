import CompletionWire.Proofs.Request.Headers

/-!
# Header values as bytes

Whether a value may stand in a header is decided on its code points, and what is sent are its bytes.
A byte below 0x80 is always a code point of its own and never a part of another one, so bytes have
no control character that the code points do not have. A value is therefore sent as it is or not at
all, and none can end its own line and begin another header.
-/

namespace CompletionWire

/-! ### Control characters -/

/-- The number of a control character of ASCII that is not a tab. -/
def IsControlNumber (n : Nat) : Prop := n < 0x20 ∧ n ≠ 9 ∨ n = 0x7F

instance (n : Nat) : Decidable (IsControlNumber n) := inferInstanceAs (Decidable (_ ∨ _))

theorem not_isControlNumber_of_le {n : Nat} (h : 0x80 ≤ n) : ¬IsControlNumber n := by
  unfold IsControlNumber
  omega

namespace Text

/-- A control character other than a tab is in the text. -/
def HoldsControl (t : Text) : Prop := ∃ c ∈ t, IsControlNumber c.val

instance (t : Text) : Decidable t.HoldsControl := inferInstanceAs (Decidable (∃ c ∈ t, _))

theorem holdsControl_append {s t : Text} :
    (s ++ t).HoldsControl ↔ s.HoldsControl ∨ t.HoldsControl := by
  simp only [HoldsControl, List.mem_append, or_and_right, exists_or]

end Text

/-! ### Bytes -/

theorem CodePoint.mem_utf8_cases {c : CodePoint} {b : UInt8} (hb : b ∈ c.utf8) :
    b.toNat = c.val ∨ 0x80 ≤ b.toNat := by
  have hc := c.val_lt
  rw [CodePoint.utf8] at hb
  split_ifs at hb with hone htwo hthree
  · left
    rw [List.mem_singleton.1 hb]
    exact Utf8.toNat_ofNat (by omega)
  all_goals
    right
    simp only [List.mem_cons, List.not_mem_nil, or_false] at hb
  · rcases hb with rfl | rfl <;> rw [Utf8.toNat_ofNat (by omega)] <;> omega
  · rcases hb with rfl | rfl | rfl <;> rw [Utf8.toNat_ofNat (by omega)] <;> omega
  · rcases hb with rfl | rfl | rfl | rfl <;> rw [Utf8.toNat_ofNat (by omega)] <;> omega

/-- The bytes of a text have no control character that the text does not have. -/
theorem Text.not_isControlNumber_of_mem_utf8 {t : Text} (h : ¬t.HoldsControl) :
    ∀ b ∈ t.utf8, ¬IsControlNumber b.toNat := by
  intro b hb
  obtain ⟨c, hc, hbc⟩ := List.mem_flatMap.1 hb
  rcases CodePoint.mem_utf8_cases hbc with hsame | hhigh
  · intro hcontrol
    apply h
    exact ⟨c, hc, hsame ▸ hcontrol⟩
  · exact not_isControlNumber_of_le hhigh

namespace Request

/-! ### Values -/

theorem isFieldCodePoint_iff {c : CodePoint} :
    isFieldCodePoint c = true ↔ ¬IsControlNumber c.val := by
  simp only [isFieldCodePoint, IsControlNumber, Bool.or_eq_true, Bool.and_eq_true,
    decide_eq_true_eq]
  omega

theorem all_isFieldCodePoint_iff {value : Text} :
    value.all isFieldCodePoint = true ↔ ¬value.HoldsControl := by
  simp only [List.all_eq_true, isFieldCodePoint_iff, Text.HoldsControl, not_exists, not_and]

theorem header_of_holdsControl {value : Text} (h : value.HoldsControl) (backend : Backend)
    (name : Text) :
    header backend name value = .error (.failure (.invalidHeader name (some backend))) := by
  apply header_of_illegal
  rw [← Bool.not_eq_true, all_isFieldCodePoint_iff]
  exact not_not_intro h

theorem header_of_not_holdsControl {value : Text} (hunicode : value.IsUnicode)
    (h : ¬value.HoldsControl) (backend : Backend) (name : Text) :
    header backend name value = .ok (name, value) :=
  header_of_isFieldText ⟨all_isFieldCodePoint_iff.2 h, hunicode⟩ backend name

/-- The bytes of a stored value are those of its text, are read as this text again, and have no
control character among them. -/
structure SentAs (value : Text) (raw : Bytes) : Prop where
  encode_eq : value.encode? = .ok raw
  decode_eq : Utf8.decode? false raw = .ok value
  plain : ∀ b ∈ raw, ¬IsControlNumber b.toNat

theorem sentAs_utf8 {value : Text} (hunicode : value.IsUnicode) (h : ¬value.HoldsControl) :
    SentAs value value.utf8 where
  encode_eq := Text.encode?_eq_ok_iff.2 ⟨hunicode, rfl⟩
  decode_eq := Utf8.decode?_utf8 hunicode
  plain := Text.not_isControlNumber_of_mem_utf8 h

/-! ### Headers -/

theorem isUnicode_userAgent (editor : Editor) {version : Text} (h : version.IsUnicode) :
    (userAgent editor version).IsUnicode := by
  have hproduct : (text "llm-adaptors/0.1.0; python/").IsUnicode := by decide
  have hunknown : (text "unknown").IsUnicode := by decide
  have hlabel : (text "; ide/").IsUnicode := by decide
  have htag : editor.tag.IsUnicode := by cases editor <;> decide
  have hversion : (if version.isEmpty then text "unknown" else version).IsUnicode := by
    split_ifs
    · exact hunknown
    · exact h
  intro c hc
  simp only [userAgent, List.mem_append] at hc
  rcases hc with ((hc | hc) | hc) | hc
  · exact hproduct c hc
  · exact hversion c hc
  · exact hlabel c hc
  · exact htag c hc

theorem holdsControl_bearer_iff {token : Text} :
    (text "Bearer " ++ token).HoldsControl ↔ token.HoldsControl := by
  have hscheme : ¬(text "Bearer ").HoldsControl := by decide
  rw [Text.holdsControl_append, or_iff_right hscheme]

theorem isUnicode_bearer {token : Text} (h : token.IsUnicode) :
    (text "Bearer " ++ token).IsUnicode := by
  have hscheme : (text "Bearer ").IsUnicode := by decide
  exact List.forall_mem_append.2 ⟨hscheme, h⟩

section Token

variable {backend : Backend} {token? : Option Text} {token : Text} {editor : Editor}
  {version : Text}

theorem tokenHeaders_of_agent_holdsControl (h : (userAgent editor version).HoldsControl) :
    tokenHeaders backend token? editor version =
      .error (.failure (.invalidHeader (text "User-Agent") (some backend))) := by
  rw [tokenHeaders, header_of_holdsControl h]
  rfl

theorem tokenHeaders_of_token_holdsControl (hversion : version.IsUnicode)
    (hagent : ¬(userAgent editor version).HoldsControl) (h : token.HoldsControl) :
    tokenHeaders backend (some token) editor version =
      .error (.failure (.invalidHeader (text "Authorization") (some backend))) := by
  have hsent := isUnicode_userAgent editor hversion
  simp only [tokenHeaders, header_of_not_holdsControl hsent hagent,
    header_of_holdsControl (holdsControl_bearer_iff.2 h)]
  rfl

theorem tokenHeaders_of_forall_isFieldText
    (h : ∀ p ∈ tokenTexts token? editor version, IsFieldText p.2) :
    tokenHeaders backend token? editor version = .ok (tokenTexts token? editor version) := by
  have hnone : faulty? (tokenTexts token? editor version) = none := faulty?_eq_none h
  rcases tokenHeaders_cases backend token? editor version with ⟨-, hok⟩ | ⟨_, _, _, hsome, -⟩
  · exact hok
  · cases hnone.symm.trans hsome

theorem forall_tokenTexts (hversion : version.IsUnicode)
    (htoken : ∀ token, token? = some token → token.IsUnicode)
    (hagent : ¬(userAgent editor version).HoldsControl)
    (hplain : ∀ token, token? = some token → ¬token.HoldsControl) :
    ∀ p ∈ tokenTexts token? editor version, p.2.IsUnicode ∧ ¬p.2.HoldsControl := by
  have hfirst := isUnicode_userAgent editor hversion
  refine List.forall_mem_cons.2 ⟨⟨hfirst, hagent⟩, ?_⟩
  intro p hp
  obtain ⟨token, hgiven, rfl⟩ := Option.map_eq_some_iff.1 (Option.mem_toList.1 hp)
  have hbearer := isUnicode_bearer (htoken token hgiven)
  exact ⟨hbearer, mt holdsControl_bearer_iff.1 (hplain token hgiven)⟩

end Token

/-- A backend that is told who asks is told it as it is or not at all. A control character in the
User-Agent is reported first, then one in the token; without any, the headers are the User-Agent
and, if there is a token, even an empty one, the token behind its scheme. Each value then goes out
as the bytes of its text, which are read as this text again and have no control character among
them. -/
theorem headers_verbatim_or_refused {selected? : Option Backend}
    (hselected : Backend.resolve selected? ≠ .ollama) (editor : Editor) {version : Text}
    (hversion : version.IsUnicode) {token? : Option Text}
    (htoken : ∀ token, token? = some token → token.IsUnicode) :
    let backend := Backend.resolve selected?
    let agent := text "llm-adaptors/0.1.0; python/" ++
      (if version = [] then text "unknown" else version) ++ text "; ide/" ++ editor.tag
    let result := headers selected? token? editor version
    (agent.HoldsControl →
      result = .error (.failure (.invalidHeader (text "User-Agent") (some backend)))) ∧
    (¬agent.HoldsControl → (∃ token, token? = some token ∧ token.HoldsControl) →
      result = .error (.failure (.invalidHeader (text "Authorization") (some backend)))) ∧
    (¬agent.HoldsControl → (∀ token, token? = some token → ¬token.HoldsControl) →
      ∃ hs, result = .ok hs ∧
        hs = (text "User-Agent", agent) ::
          (token?.map fun token => (text "Authorization", text "Bearer " ++ token)).toList ∧
        ∀ h ∈ hs, SentAs h.2 h.2.utf8) := by
  intro backend agent result
  have hagent : userAgent editor version = agent := by
    simp only [userAgent, List.isEmpty_iff, agent]
  have hresult : result = tokenHeaders backend token? editor version :=
    headers_eq_tokenHeaders hselected token? editor version
  rw [hresult, ← hagent]
  refine ⟨tokenHeaders_of_agent_holdsControl, ?_, ?_⟩
  · intro hplain hshown
    obtain ⟨token, rfl, hcontrol⟩ := hshown
    exact tokenHeaders_of_token_holdsControl hversion hplain hcontrol
  · intro hplain hlegal
    have htexts := forall_tokenTexts hversion htoken hplain hlegal
    refine ⟨tokenTexts token? editor version, ?_, rfl, ?_⟩
    · apply tokenHeaders_of_forall_isFieldText
      intro p hp
      exact ⟨all_isFieldCodePoint_iff.2 (htexts p hp).2, (htexts p hp).1⟩
    · intro p hp
      exact sentAs_utf8 (htexts p hp).1 (htexts p hp).2

/-- A line end in the version is reported although there is one in the token, a line end in the
token alone is reported as the token's, and an empty token is shown. -/
theorem headers_verbatim_or_refused_line_ends :
    headers none (some (text "hf\nX: y")) .vscode (text "3\r\n11") =
      .error (.failure (.invalidHeader (text "User-Agent") (some .huggingFace))) ∧
    headers (some .tgi) (some (text "hf\nX: y")) .vscode [] =
      .error (.failure (.invalidHeader (text "Authorization") (some .tgi))) ∧
    headers (some .openAi) (some []) .vscode (text "é\t11") =
      .ok [(text "User-Agent", text "llm-adaptors/0.1.0; python/é\t11; ide/vscode"),
        (text "Authorization", text "Bearer ")] := by
  have hline : ∀ token : Text, some (text "hf\nX: y") = some token → token.IsUnicode := by
    intro token h
    obtain rfl := Option.some.inj h
    decide
  have hempty : ∀ token : Text, some [] = some token → token.IsUnicode ∧ ¬token.HoldsControl := by
    intro token h
    obtain rfl := Option.some.inj h
    decide
  obtain ⟨hagent, -⟩ := @headers_verbatim_or_refused none (by decide) .vscode (text "3\r\n11")
    (by decide) _ hline
  obtain ⟨-, htoken, -⟩ := @headers_verbatim_or_refused (some .tgi) (by decide) .vscode []
    (by decide) _ hline
  obtain ⟨-, -, hshown⟩ := @headers_verbatim_or_refused (some .openAi) (by decide) .vscode
    (text "é\t11") (by decide) _ fun token h => (hempty token h).1
  refine ⟨hagent (by decide), htoken (by decide) ⟨_, rfl, by decide⟩, ?_⟩
  obtain ⟨hs, hresult, hhs, -⟩ := hshown (by decide) fun token h => (hempty token h).2
  rw [hresult, hhs]
  rfl

end Request

end CompletionWire
