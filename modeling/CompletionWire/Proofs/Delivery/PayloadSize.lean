import CompletionWire.Proofs.Delivery.EndToEnd
import CompletionWire.Proofs.Delivery.Refusals
import CompletionWire.Proofs.Text.WellFormed

/-!
# The size of a response on the wire

A failure that tells a size was raised by reading a response, never by making the request, and it
tells the size of the text that was read. If the bytes of the response are well-formed UTF-8, this
is how many bytes arrived, as the text has no other bytes than these.
-/

namespace CompletionWire

def Failure.size? : Failure → Option Int
  | .malformedResponse _ size | .unexpectedShape _ size _ | .listOfGenerations _ size => some size
  | _ => none

namespace Response

/-- A failure of a response of so many bytes and its message. The number stands in the message, but
not in the one that names another adaptor. -/
inductive TellsSize (backend : Backend) (size : Nat) : Failure → Text → Prop
  | malformed : TellsSize backend size (.malformedResponse backend size)
      (backend.tag ++ text " response is not valid JSON (" ++ Text.ofNat size ++ text " bytes)")
  | unexpectedShape : TellsSize backend size (.unexpectedShape backend size none)
      (text "Failed to deserialize " ++ backend.tag ++ text " response (" ++ Text.ofNat size ++
        text " bytes)")
  | listOfGenerations (h : backend = .tgi) : TellsSize backend size (.listOfGenerations .tgi size)
      (text "tgi returned a list of generations; the endpoint is likely the HuggingFace " ++
        text "Inference API, use adaptor 'huggingface'")

theorem message_malformedResponse (backend : Backend) (size : Nat) :
    (Failure.malformedResponse backend size).message =
      backend.tag ++ text " response is not valid JSON (" ++ Text.ofNat size ++ text " bytes)" := by
  have hjoin : text " response is not valid JSON (" =
      text " response is not valid JSON" ++ text " (" := by rfl
  rw [hjoin]
  simp only [Failure.message, Failure.sizeText, List.append_assoc]
  rfl

theorem message_unexpectedShape (backend : Backend) (size : Nat) :
    (Failure.unexpectedShape backend size none).message =
      text "Failed to deserialize " ++ backend.tag ++ text " response (" ++ Text.ofNat size ++
        text " bytes)" := by
  have hjoin : text " response (" = text " response" ++ text " (" := by rfl
  rw [hjoin]
  simp only [Failure.message, Option.getD_none, Failure.sizeText, List.append_assoc]
  rfl

theorem message_listOfGenerations (size : Nat) :
    (Failure.listOfGenerations .tgi size).message =
      text "tgi returned a list of generations; the endpoint is likely the HuggingFace " ++
        text "Inference API, use adaptor 'huggingface'" := by
  simp only [Failure.message, Backend.tag, ← text_append]
  rfl

theorem tellsSize_of_mayFail {size : Nat} {backend : Backend} {f : Failure}
    (h : MayFail size backend f) (htold : f.size? ≠ none) :
    f.size? = some (size : Int) ∧ TellsSize backend size f f.message := by
  cases h with
  | malformed => exact ⟨rfl, message_malformedResponse backend size ▸ .malformed⟩
  | unexpectedShape => exact ⟨rfl, message_unexpectedShape backend size ▸ .unexpectedShape⟩
  | listOfGenerations => exact ⟨rfl, message_listOfGenerations size ▸ .listOfGenerations rfl⟩
  | reported h => cases h <;> exact absurd rfl htold

end Response

/-! ### Requests -/

/-- If this fails with a failure of an adaptor, then with one that tells no size. -/
def TellsNoSize {α : Type} (x : Except Mishap α) : Prop :=
  ∀ f, x = .error (.failure f) → f.size? = none

theorem TellsNoSize.bind {α β : Type} {x : Except Mishap α} {k : α → Except Mishap β}
    (hx : TellsNoSize x) (hk : ∀ a, TellsNoSize (k a)) : TellsNoSize (x >>= k) := by
  intro f hf
  cases x with
  | error m => exact hx f (congrArg Except.error (Except.error.inj hf))
  | ok a => exact hk a f hf

theorem tellsNoSize_ok {α : Type} (a : α) : TellsNoSize (.ok a) := nofun

theorem tellsNoSize_rejection {α : Type} (r : Rejection) :
    TellsNoSize (.error (.rejection r) : Except Mishap α) := nofun

theorem tellsNoSize_headers (selected? : Option Backend) (token? : Option Text) (editor : Editor)
    (version : Text) : TellsNoSize (Request.headers selected? token? editor version) := by
  intro f hf
  rcases Request.headers_cases selected? token? editor version with
    ⟨-, hs, hok⟩ | ⟨name, value, m, hfaulty, hm, herror⟩
  · cases hok.symm.trans hf
  obtain rfl : m = .failure f := Except.error.inj (herror.symm.trans hf)
  rcases Request.not_isFieldText_cases (Request.not_isFieldText_of_faultyHeader? hfaulty) with
    hillegal | ⟨hlegal, run, hrun⟩
  · rw [Request.header_of_illegal hillegal] at hm
    cases hm
    rfl
  · rw [Request.header_of_encode?_error hlegal hrun] at hm
    cases hm

theorem tellsNoSize_ofSettings (s : Settings) : TellsNoSize (Policy.ofSettings s) := by
  simp only [Policy.ofSettings]
  split_ifs
  · exact tellsNoSize_ok _
  · rintro _ ⟨⟩

theorem tellsNoSize_ofText (t : Text) :
    TellsNoSize ((Url.ofText t).mapError Mishap.ofUrlFault) := by
  cases Url.ofText t with
  | ok url => exact tellsNoSize_ok url
  | error fault => cases fault <;> nofun

theorem tellsNoSize_wireText (b : Members) : TellsNoSize (Request.wireText b) := by
  rw [Request.wireText]
  split
  · next fault _ =>
    rintro _ h
    cases fault <;> cases h
  · dsimp only
    split
    · exact tellsNoSize_rejection _
    · exact tellsNoSize_ok _

theorem tellsNoSize_checkHost (url : Url) :
    TellsNoSize (url.checkHost.mapError Mishap.ofHostFault) := by
  cases url.checkHost with
  | ok u => exact tellsNoSize_ok u
  | error fault => cases fault <;> exact tellsNoSize_rejection _

theorem tellsNoSize_prepare (c : Call) (s : Settings) : TellsNoSize (c.prepare s).value := by
  simp only [Call.prepare, Request.buildBody, Logged.map]
  rcases Request.body_cases c.prompt c.params with ⟨-, -, hbody⟩ | ⟨-, m, -, hbody⟩
  · rw [hbody]
    rintro _ ⟨⟩
    rfl
  · rw [hbody]
    refine .bind (tellsNoSize_headers _ _ _ _) fun headers => ?_
    refine .bind (tellsNoSize_ofSettings s) fun policy => ?_
    refine .bind (tellsNoSize_ofText _) fun url => ?_
    refine .bind (tellsNoSize_wireText _) fun written => ?_
    exact .bind (tellsNoSize_checkHost url) fun _ => tellsNoSize_ok _

/-! ### Responses -/

theorem Answer.text_ne_failure {a : Answer} {f : Failure} : a.text ≠ .error (.failure f) := by
  intro h
  by_cases hbody : a.body = []
  · cases (text_of_nil hbody).symm.trans h
  rw [text_of_ne_nil hbody] at h
  rcases of_bind_eq_error h with hcharset | ⟨charset, -, h⟩
  · rcases ContentType.charset_error_cases hcharset with hdisorder | hnul
    · cases hdisorder
    · cases hnul
  · cases hdecode : charset.decodeReplacing a.body with
    | ok t =>
      rw [hdecode] at h
      cases h
    | error fault =>
      rw [hdecode] at h
      cases fault <;> cases h

namespace Delivery

variable {c : Call} {s : Settings} {script : Script} {f : Failure}

theorem exists_text_of_conclude {url : Url} {a : Answer}
    (h : (conclude c url (.ok a)).value = .error (.failure f)) :
    ∃ t, a.text = .ok t ∧ (Response.read c.params.backend? t).value = .error (.failure f) := by
  cases hascii : (a.contentType?.getD []).notAscii? with
  | some run => cases (conclude_of_unread (.contentType hascii) c).symm.trans h
  | none =>
    by_cases hscheme : url.scheme = []
    · cases (conclude_of_unread (.scheme hascii hscheme) c).symm.trans h
    · cases htext : a.text with
      | error m =>
        have hm := (conclude_of_text_error hascii htext c hscheme).symm.trans h
        exact absurd htext (Except.error.inj hm ▸ Answer.text_ne_failure)
      | ok t => exact ⟨t, rfl, (conclude_of_readable ⟨hascii, htext⟩ c hscheme).symm.trans h⟩

/-- A failure that tells a size comes from the text of the last answer. -/
theorem exists_answer_of_size? (hresult : (run c s script).result = .error (.failure f))
    (htold : f.size? ≠ none) :
    ∃ a t, script.entry (script.attempts s.attemptLimit - 1) = .answer a ∧ a.text = .ok t ∧
      Response.MayFail (Response.payloadSize t) c.params.backend f := by
  cases hprepared : (c.prepare s).value with
  | error m =>
    rw [run_of_prepare_error hprepared] at hresult
    cases hresult
    exact absurd (tellsNoSize_prepare c s f hprepared) htold
  | ok prepared =>
    obtain ⟨request, policy⟩ := prepared
    obtain ⟨-, -, hpolicy, -⟩ := Call.exists_headers_of_prepare hprepared
    obtain ⟨-, -, hconclude⟩ := run_of_prepared hprepared script
    rw [hresult, Trace.outcome_run, Policy.retries_ofSettings hpolicy] at hconclude
    cases hentry : script.entry (script.attempts s.attemptLimit - 1) with
    | error e =>
      rw [hentry] at hconclude
      cases hconclude
    | answer a =>
      rw [hentry] at hconclude
      obtain ⟨t, ht, hread⟩ := exists_text_of_conclude hconclude.symm
      refine ⟨a, t, rfl, ht, ?_⟩
      rcases Response.read_cases c.params.backend? t with ⟨gs, hgs⟩ | ⟨g, hfail, hg⟩ | hdeep
      · cases hgs.symm.trans hread
      · cases hg.symm.trans hread
        exact hfail
      · have habort : (Response.read c.params.backend? t).value = .error (.abort .tooDeep) :=
          Response.read_value_of_load_error (Response.load_eq_tooDeep_iff.2 hdeep)
        cases habort.symm.trans hread

/-- If a delivery ends with a failure that tells a size, an answer has arrived at the last attempt,
and if this one's bytes are well-formed UTF-8 and are read as such, whatever its status, the size is
the number of these bytes, and so is the number in the message of the failure. -/
theorem run_tells_size_of_body {size : Int}
    (hresult : (run c s script).result = .error (.failure f)) (hsize : f.size? = some size) :
    ∃ a, script.entry (script.attempts s.attemptLimit - 1) = .answer a ∧
      ∀ t, Utf8.decode? false a.body = .ok t →
        ContentType.charset a.contentType? = .ok (.utf8 false) →
        size = a.body.length ∧
          Response.TellsSize c.params.backend a.body.length f f.message := by
  have htold : f.size? ≠ none := by simp [hsize]
  obtain ⟨a, u, hentry, hu, hfail⟩ := exists_answer_of_size? hresult htold
  refine ⟨a, hentry, fun t ht hcharset => ?_⟩
  obtain ⟨hunicode, hbody⟩ := Utf8.decode?_eq_ok_iff.1 ht
  obtain rfl : t = u := by
    exact Except.ok.inj ((Answer.text_utf8 hcharset hunicode hbody.symm).symm.trans hu)
  have hlength : Response.payloadSize t = a.body.length := congrArg List.length hbody
  rw [hlength] at hfail
  obtain ⟨hfound, hmessage⟩ := Response.tellsSize_of_mayFail hfail htold
  exact ⟨Option.some.inj (hsize.symm.trans hfound), hmessage⟩

/-- A byte order mark, a letter of two bytes, an emoji and a NUL make ten bytes. -/
theorem run_tells_size_of_ten_bytes :
    let c := Call.plain (text "gpt2") (text "hi")
    let body : Bytes := [0xEF, 0xBB, 0xBF, 0xC3, 0xA9, 0xF0, 0x9F, 0x98, 0x80, 0x00]
    let a : Answer := ⟨500, some (text "text/html; charset=\"UTF-8\""), body⟩
    ∃ f, (run c (Settings.ofEnvironment []) [.answer a]).result = .error (.failure f) ∧
      f.size? = some 10 ∧ Response.TellsSize .huggingFace 10 f f.message := by
  intro c body a
  let t : Text := [0xFEFF, 0xE9, 0x1F600, 0].map CodePoint.ofNat
  obtain ⟨url, written, hscheme, hsendable⟩ := Call.sendable_plain
  have hdecode : Utf8.decode? false body = .ok t := by decide
  have hsays : ContentType.SaysUtf8 a.contentType? :=
    .named (p := (text "charset", text "\"UTF-8\"")) (by decide)
      (ContentType.charsetOf_of_normalName (by decide) (by decide))
  have hcharset : ContentType.charset a.contentType? = .ok (.utf8 false) :=
    ContentType.charset_of_saysUtf8 hsays (by rfl)
  have ha : a.IsUtf8 := ⟨by decide, hcharset⟩
  have ht : a.Readable t := Answer.readable_of_isUtf8 ha (by decide) (by decide)
  obtain ⟨-, -, -, -, -, hrun⟩ := run_of_sendable hsendable (s := Settings.ofEnvironment [])
    ⟨by decide, by decide⟩ [.answer a]
  have hresult : (run c (Settings.ofEnvironment []) [.answer a]).result =
      .error (.failure (.malformedResponse .huggingFace 10)) := by
    rw [hrun]
    exact (conclude_of_readable ht c hscheme).trans (by rfl)
  refine ⟨_, hresult, rfl, ?_⟩
  obtain ⟨a', hentry, htells⟩ := run_tells_size_of_body hresult rfl
  cases hentry
  exact (htells t hdecode hcharset).2

end Delivery

end CompletionWire
