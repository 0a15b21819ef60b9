import CompletionWire.Proofs.Delivery.Attempts
import CompletionWire.Proofs.Delivery.Preparation

/-!
# The trace of a delivery

A call that can be sent leaves one request, repeated for every attempt that its script and its
settings call for, with one wait between two of them. What comes of it is decided by the entry of
the last attempt alone: an error is passed on as it is, whether it is final or the attempts are used
up, and a response of any status is read by the rules of its backend.
-/

namespace CompletionWire

namespace Answer

/-- An answer that arrives as a text: its content type can be part of a response, and its bytes can
be read by the charset that it names. -/
structure Readable (a : Answer) (t : Text) : Prop where
  ascii : (a.contentType?.getD []).notAscii? = none
  text_eq : a.text = .ok t

variable {a : Answer}

theorem text_of_nil (h : a.body = []) : a.text = .ok [] := by
  rw [text, h]
  rfl

theorem text_of_ne_nil (h : a.body ≠ []) :
    a.text = (ContentType.charset a.contentType?).bind fun charset =>
      (charset.decodeReplacing a.body).mapError Mishap.ofCharsetFault := by
  rw [text, List.isEmpty_eq_false_iff.2 h]
  rfl

theorem text_of_charset (h : a.body ≠ []) {charset : Charset}
    (hcharset : ContentType.charset a.contentType? = .ok charset) :
    a.text = (charset.decodeReplacing a.body).mapError Mishap.ofCharsetFault := by
  rw [text_of_ne_nil h, hcharset]
  rfl

theorem text_of_charset_error (h : a.body ≠ []) {m : Mishap}
    (hcharset : ContentType.charset a.contentType? = .error m) : a.text = .error m := by
  rw [text_of_ne_nil h, hcharset]
  rfl

end Answer

namespace Call

/-- A call for a model that asks for nothing but a prompt's completion. -/
def plain (model prompt : Text) : Call :=
  ⟨model, .text prompt, {}, none, .unknown, text "3.11.2"⟩

theorem sendable_plain :
    ∃ url written, url.scheme ≠ [] ∧ (plain (text "gpt2") (text "hi")).Sendable url written := by
  cases hwritten : Request.wireText (Request.textGenerationBody (.text (text "hi")) {}) with
  | error m =>
    have hsome : (Request.wireText
        (Request.textGenerationBody (.text (text "hi")) {})).toOption.isSome = true := by
      decide +kernel
    rw [hwritten] at hsome
    cases hsome
  | ok written =>
    let url : Url :=
      { scheme := text "https", host := text "api-inference.huggingface.co"
        path := text "/models/gpt2" }
    exact ⟨url, written, by decide, ⟨by rfl, by rfl, ⟨_, rfl, hwritten⟩, ⟨_, by rfl⟩⟩⟩

end Call

namespace Delivery

theorem run_of_prepared {c : Call} {s : Settings} {request : SentRequest} {policy : Policy}
    (h : (c.prepare s).value = .ok (request, policy)) (script : Script) :
    let trace := Trace.run policy policy.retries 1 script
    (run c s script).requests = List.replicate (trace.waits.length + 1) request ∧
      (run c s script).waits = trace.waits ∧
      (run c s script).result = (conclude c request.url trace.outcome).value := by
  simp only [run, h, and_self]

/-- The result of an answer that arrives as a text, from a URL with a scheme. -/
theorem conclude_of_readable {a : Answer} {t : Text} (ha : a.Readable t) (c : Call) {url : Url}
    (hurl : url.scheme ≠ []) :
    (conclude c url (.ok a)).value = (Response.read c.params.backend? t).value := by
  have hscheme : url.scheme.isEmpty = false := by simpa using hurl
  have haccept : accept url a = .ok a := by simp [accept, ha.ascii, hscheme]
  simp [conclude, haccept, Logged.andThen, ha.text_eq]

theorem conclude_of_text_error {a : Answer} (hascii : (a.contentType?.getD []).notAscii? = none)
    {m : Mishap} (ha : a.text = .error m) (c : Call) {url : Url} (hurl : url.scheme ≠ []) :
    (conclude c url (.ok a)).value = .error m := by
  have hscheme : url.scheme.isEmpty = false := by simpa using hurl
  have haccept : accept url a = .ok a := by simp [accept, hascii, hscheme]
  simp [conclude, haccept, Logged.andThen, ha, Logged.silent]

/-- What a call that can be sent leaves behind: one request for every attempt, and one wait between
two of them. -/
theorem run_of_policy {c : Call} {url : Url} {written : Text} (h : c.Sendable url written)
    {s : Settings} {policy : Policy} (hpolicy : Policy.ofSettings s = .ok policy)
    (script : Script) :
    ∃ request : SentRequest, request.url = url ∧ request.body = written ∧
      (run c s script).requests = List.replicate (script.attempts s.attemptLimit) request ∧
      (run c s script).waits = (List.range (script.attempts s.attemptLimit - 1)).map
        (fun i => policy.wait (i + 1)) ∧
      (run c s script).result =
        (conclude c url (script.entry (script.attempts s.attemptLimit - 1)).outcome).value := by
  obtain ⟨request, hurl, hbody, hprepared⟩ := Call.prepare_of_sendable h hpolicy
  obtain ⟨hrequests, hds, hresult⟩ := run_of_prepared hprepared script
  have hlimit : policy.retries + 1 = s.attemptLimit := Policy.retries_ofSettings hpolicy
  have hpos : 0 < script.attempts s.attemptLimit := by
    rw [← hlimit]
    exact Script.attempts_pos script _
  have htrace := Trace.waits_run policy policy.retries 1 script
  rw [hlimit] at htrace
  have hcount : (Trace.run policy policy.retries 1 script).waits.length + 1 =
      script.attempts s.attemptLimit := by
    rw [htrace, List.length_map, List.length_range]
    omega
  refine ⟨request, hurl, hbody, ?_, ?_, ?_⟩
  · rw [hrequests, hcount]
  · rw [hds, htrace]
    apply List.map_congr_left
    intro i _
    rw [Nat.add_comm]
  · rw [hresult, Trace.outcome_run, hlimit, hurl]

theorem run_of_sendable {c : Call} {url : Url} {written : Text} (h : c.Sendable url written)
    {s : Settings} (hwaits : s.HasExactWaits) (script : Script) :
    ∃ request : SentRequest, request.url = url ∧ request.body = written ∧
      (run c s script).requests = List.replicate (script.attempts s.attemptLimit) request ∧
      (run c s script).waits = (List.range (script.attempts s.attemptLimit - 1)).map
        (fun i => Binary64.ofInt (s.waitBehind (i + 1))) ∧
      (run c s script).result =
        (conclude c url (script.entry (script.attempts s.attemptLimit - 1)).outcome).value := by
  have hrun := run_of_policy h (Policy.ofSettings_of_hasExactWaits hwaits) script
  simpa only [Policy.wait_exact hwaits] using hrun

/-- A call that can be sent is sent as often as the script and the settings call for, always as the
same request and with the waits in between that the settings give, and the entry of the last attempt
decides what comes of it. When the script settles the request in time, an error that is not one of
the transport is passed on, and an answer gives what reading its text gives, whatever its status;
when it does not, the error of the last attempt is passed on. -/
theorem run_follows_script {c : Call} {url : Url} {written : Text} (h : c.Sendable url written)
    {env : Environment} (hwaits : (Settings.ofEnvironment env).HasExactWaits) (script : Script) :
    let s := Settings.ofEnvironment env
    let d := run c s script
    let made := script.attempts s.attemptLimit
    (∃ request : SentRequest, request.url = url ∧ request.body = written ∧
      d.requests = List.replicate made request) ∧
    d.waits = (List.range (made - 1)).map (fun i => Binary64.ofInt (s.waitBehind (i + 1))) ∧
    d.waits.map Binary64.toInt? =
      (List.range (made - 1)).map (fun i => some (s.waitBehind (i + 1))) ∧
    d.result = (conclude c url (script.entry (made - 1)).outcome).value ∧
    (∀ i, script.settled? = some i → i < s.attemptLimit →
      (∀ name message, script.entry i = .error (.other name message) →
        d.result = .error (.abort (.network (.other name message)))) ∧
      (∀ a t, script.entry i = .answer a → a.Readable t → url.scheme ≠ [] →
        d.result = (Response.read c.params.backend? t).value)) ∧
    ((∀ i, script.settled? = some i → s.attemptLimit ≤ i) →
      ∃ error message,
        script.entry (s.attemptLimit - 1) = .error (.transport error message) ∧
        d.result = .error (.abort (.network (.transport error message)))) := by
  intro s d made
  obtain ⟨request, hurl, hbody, hrequests, hds, hresult⟩ := run_of_sendable h hwaits script
  refine ⟨⟨request, hurl, hbody, hrequests⟩, hds, ?_, hresult, ?_, ?_⟩
  · rw [show d.waits = _ from hds, List.map_map]
    apply List.map_congr_left
    intro i _
    exact Binary64.toInt?_ofInt (Settings.natAbs_waitBehind_le hwaits _)
  · intro i hi hlt
    rw [Script.attempts_of_settled hi hlt, Nat.add_sub_cancel] at hresult
    refine ⟨fun name message he => ?_, fun a t ha ht hscheme => ?_⟩
    · rw [show d.result = _ from hresult, he]
      rfl
    · rw [show d.result = _ from hresult, ha]
      exact conclude_of_readable ht c hscheme
  · intro hunsettled
    rw [Script.attempts_of_unsettled hunsettled] at hresult
    have hlast : (script.entry (s.attemptLimit - 1)).isRetryable = true := by
      apply Script.isRetryable_entry_of_unsettled
      intro i hi
      have := hunsettled i hi
      have := s.attemptLimit_pos
      omega
    obtain ⟨error, message, he⟩ := Reception.exists_transport_of_isRetryable hlast
    refine ⟨error, message, he, ?_⟩
    rw [show d.result = _ from hresult, he]
    rfl

/-- The second attempt is answered, behind a wait whose bounds stand the wrong way round. -/
theorem run_follows_script_second_attempt :
    let c := Call.plain (text "gpt2") (text "hi")
    let env : Environment := [(Settings.attemptsVariable, text "2"),
      (Settings.leastWaitVariable, text "3"), (Settings.mostWaitVariable, text "2")]
    let d := run c (Settings.ofEnvironment env)
      [.error (.transport .readTimeout []), .answer ⟨503, none, (text "[]").utf8⟩]
    d.requests.length = 2 ∧ d.waits.map Binary64.toInt? = [some 3] ∧ d.result = .ok [] := by
  intro c env d
  obtain ⟨url, written, hscheme, hsendable⟩ := Call.sendable_plain
  have hexact : (Settings.ofEnvironment env).HasExactWaits := ⟨by decide, by decide⟩
  obtain ⟨⟨request, -, -, hrequests⟩, -, hwaits, -, hsettled, -⟩ :=
    run_follows_script hsendable hexact
      [.error (.transport .readTimeout []), .answer ⟨503, none, (text "[]").utf8⟩]
  obtain ⟨-, hanswer⟩ := hsettled 1 (by decide) (by decide)
  refine ⟨?_, ?_, ?_⟩
  · rw [hrequests, List.length_replicate]
    decide
  · rw [hwaits]
    decide
  · rw [hanswer ⟨503, none, (text "[]").utf8⟩ (text "[]") rfl ⟨by decide, by rfl⟩ hscheme]
    rfl

end Delivery

end CompletionWire
