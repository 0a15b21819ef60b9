import CompletionWire.Proofs.Request.Verbatim

/-!
# Headers that cannot be represented

The headers of a call are meant to hold certain texts, one after the other, and the first of these
that a header cannot hold decides what is reported. A text with a control character is reported
under the name of its header. A text with surrogates and no control character is not: it passes as
legal, and what is reported is the strict encoder's refusal of its first surrogates.
-/

namespace CompletionWire

namespace Request

/-- What the headers of a call are meant to be, whether or not these can be made. -/
def intended (selected? : Option Backend) (token? : Option Text) (editor : Editor)
    (version : Text) : Headers :=
  if Backend.resolve selected? = .ollama then [] else tokenTexts token? editor version

section Intended

variable {selected? : Option Backend} {token? : Option Text} {editor : Editor} {version : Text}

theorem faultyHeader?_eq_faulty? :
    faultyHeader? selected? token? editor version =
      faulty? (intended selected? token? editor version) := by
  rw [faultyHeader?, intended]
  split_ifs
  · rfl
  · rfl

theorem faulty?_append_cons {front back : Headers} {name value : Text}
    (hfront : ∀ p ∈ front, IsFieldText p.2) (hvalue : ¬IsFieldText value) :
    faulty? (front ++ (name, value) :: back) = some (name, value) := by
  have hnone : faulty? front = none := faulty?_eq_none hfront
  rw [faulty?] at hnone ⊢
  rw [List.find?_append, hnone, Option.none_or, List.find?_cons_of_pos (by simpa using hvalue)]

/-- Intended headers that can all be represented are made. -/
theorem headers_eq_intended
    (h : ∀ p ∈ intended selected? token? editor version, IsFieldText p.2) :
    headers selected? token? editor version = .ok (intended selected? token? editor version) := by
  unfold intended at h ⊢
  split_ifs at h ⊢ with hollama
  · rw [headers, hollama]
  · rw [headers_eq_tokenHeaders hollama, tokenHeaders_of_forall_isFieldText h]

theorem eq_intended_of_headers {hs : Headers}
    (h : headers selected? token? editor version = .ok hs) :
    hs = intended selected? token? editor version := by
  rw [intended]
  split_ifs with hollama
  · rw [headers, hollama] at h
    exact (Except.ok.inj h).symm
  · rw [headers_eq_tokenHeaders hollama] at h
    rcases tokenHeaders_cases _ token? editor version with ⟨-, hok⟩ | ⟨_, _, _, -, -, herror⟩
    · exact Except.ok.inj (h.symm.trans hok)
    · cases herror.symm.trans h

theorem headers_of_first_fault {front back : Headers} {name value : Text} {m : Mishap}
    (hsplit : intended selected? token? editor version = front ++ (name, value) :: back)
    (hfront : ∀ p ∈ front, IsFieldText p.2) (hvalue : ¬IsFieldText value)
    (hm : header (Backend.resolve selected?) name value = .error m) :
    headers selected? token? editor version = .error m := by
  have hfaulty : faultyHeader? selected? token? editor version = some (name, value) := by
    rw [faultyHeader?_eq_faulty?, hsplit, faulty?_append_cons hfront hvalue]
  rcases headers_cases selected? token? editor version with
    ⟨hnone, -⟩ | ⟨name', value', m', hsome, hm', hheaders⟩
  · cases hnone.symm.trans hfaulty
  · cases hsome.symm.trans hfaulty
    cases hm'.symm.trans hm
    exact hheaders

end Intended

/-- The headers of any call are the intended ones, each value with bytes that are read as this value
again, or the first of these that cannot be represented is reported: by the name of its header and
with the backend in question if it has a control character, and otherwise only by the surrogates
that it begins to have no bytes at, in which the name of the header has no part. -/
theorem headers_intended_or_first_fault (selected? : Option Backend) (token? : Option Text)
    (editor : Editor) (version : Text) :
    let backend := Backend.resolve selected?
    let agent := text "llm-adaptors/0.1.0; python/" ++
      (if version = [] then text "unknown" else version) ++ text "; ide/" ++ editor.tag
    let meant : Headers :=
      if backend = .ollama then []
      else (text "User-Agent", agent) ::
        (token?.map fun token => (text "Authorization", text "Bearer " ++ token)).toList
    let result := headers selected? token? editor version
    ((∀ p ∈ meant, ¬p.2.HoldsControl ∧ p.2.IsUnicode) →
      result = .ok meant ∧ ∀ p ∈ meant, SentAs p.2 p.2.utf8) ∧
    ∀ front name value back, meant = front ++ (name, value) :: back →
      (∀ p ∈ front, ¬p.2.HoldsControl ∧ p.2.IsUnicode) →
      (value.HoldsControl →
        result = .error (.failure (.invalidHeader name (some backend)))) ∧
      (¬value.HoldsControl → ¬value.IsUnicode →
        ∃ run, value.loneSurrogates? = some run ∧
          result = .error (.rejection (.notUnicode run))) := by
  intro backend agent meant result
  have hmeant : meant = intended selected? token? editor version := by
    simp only [meant, intended, tokenTexts, userAgent, List.isEmpty_iff, agent, backend]
  have hfield {value : Text} : IsFieldText value ↔ ¬value.HoldsControl ∧ value.IsUnicode := by
    rw [IsFieldText, all_isFieldCodePoint_iff]
  simp only [← hfield]
  rw [hmeant]
  refine ⟨fun h => ⟨headers_eq_intended h, fun p hp => ?_⟩, ?_⟩
  · obtain ⟨hplain, hunicode⟩ := hfield.1 (h p hp)
    exact sentAs_utf8 hunicode hplain
  intro front name value back hsplit hfront
  refine ⟨fun hcontrol => ?_, fun hplain hsurrogate => ?_⟩
  · have hvalue : ¬IsFieldText value := fun h => (hfield.1 h).1 hcontrol
    exact headers_of_first_fault hsplit hfront hvalue (header_of_holdsControl hcontrol _ _)
  · have hvalue : ¬IsFieldText value := fun h => hsurrogate (hfield.1 h).2
    cases hrun : value.loneSurrogates? with
    | none => exact absurd (Text.loneSurrogates?_eq_none_iff.1 hrun) hsurrogate
    | some run =>
      have hencode : value.encode? = .error run := by rw [Text.encode?, hrun]
      refine ⟨run, rfl, headers_of_first_fault hsplit hfront hvalue ?_⟩
      exact header_of_encode?_error (all_isFieldCodePoint_iff.2 hplain) hencode _ _

/-- A surrogate in the version is reported although the token has a line end, a line end in the
token is reported although there is a surrogate in front of it, and neither counts for Ollama. -/
theorem headers_intended_or_first_fault_each :
    let surrogate := CodePoint.ofNat 0xD800
    let token := surrogate :: text "\n"
    headers none (some token) .vscode [surrogate] =
      .error (.rejection (.notUnicode ⟨surrogate, 27, 1⟩)) ∧
    headers (some .tgi) (some token) .vscode [] =
      .error (.failure (.invalidHeader (text "Authorization") (some .tgi))) ∧
    headers (some .ollama) (some token) .vscode [surrogate] = .ok [] := by
  intro surrogate token
  obtain ⟨-, hversion⟩ := headers_intended_or_first_fault none (some token) .vscode [surrogate]
  obtain ⟨-, htoken⟩ := headers_intended_or_first_fault (some .tgi) (some token) .vscode []
  obtain ⟨hollama, -⟩ :=
    headers_intended_or_first_fault (some .ollama) (some token) .vscode [surrogate]
  refine ⟨?_, ?_, ?_⟩
  · obtain ⟨run, hrun, hresult⟩ := (hversion [] _ _ _ rfl nofun).2 (by decide) (by decide)
    cases hrun
    exact hresult
  · exact (htoken [_] _ _ [] rfl (by decide)).1 (by decide)
  · exact (hollama nofun).1

/-- A token that is one low surrogate, as an undecodable byte of the environment becomes, is refused
for its place in the text, and not as the value of its header. -/
theorem headers_of_escaped_byte :
    let result := headers none (some [CodePoint.ofNat 0xDCFF]) .unknown (text "3.11.2")
    result = .error (.rejection (.notUnicode ⟨CodePoint.ofNat 0xDCFF, 7, 1⟩)) ∧
      (∀ hs, result ≠ .ok hs) ∧
      ∀ name backend?, result ≠ .error (.failure (.invalidHeader name backend?)) := by
  intro result
  have hresult : result = .error (.rejection (.notUnicode ⟨CodePoint.ofNat 0xDCFF, 7, 1⟩)) := by rfl
  rw [hresult]
  exact ⟨rfl, nofun, nofun⟩

end Request

end CompletionWire
