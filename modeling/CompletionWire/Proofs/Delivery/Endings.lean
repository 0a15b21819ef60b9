import CompletionWire.Proofs.Delivery.Trace
import CompletionWire.Proofs.Request.Headers
import CompletionWire.Proofs.Request.OnTheWire
import CompletionWire.Proofs.Response.Failures

/-!
# How a delivery ends

A delivery is meant to end with generations, with a failure of its adaptor or with the transport
error of its last attempt. It does so unless a header or the body holds what cannot be written, or
an answer cannot be taken for a text: each of these ends it in a way of its own. What cannot be
written of a body is the first part of it that is no JSON proper or beyond the limits of the writer,
or else the first of its surrogates.
-/

namespace CompletionWire

/-! ### Bodies -/

namespace Request

end Request

namespace Call

/-- The first header of a call whose value it may not have. -/
def faultyHeader? (c : Call) : Option (Text × Text) :=
  Request.faultyHeader? c.params.backend? c.token? c.editor c.runtimeVersion

def Tells (c : Call) (m : Json) : Prop :=
  Request.NeedsModel c.params.backend ∧
    c.params.requestBody?.bind (Members.find? (text "model")) = some m

/-- The numbers that the backend is told are finite and not too long, and its model does not nest
too deep. -/
structure IsWritable (c : Call) : Prop where
  maxNewTokens : c.params.generation.maxNewTokens < 10 ^ 4300
  temperature : c.params.generation.temperature.isFinite = true
  topP : c.params.generation.topP.isFinite = true
  model : ∀ m, c.Tells m → m.IsWritable ⟨4300, 989⟩

/-- The texts that the backend is told have bytes. -/
structure IsUnicode (c : Call) : Prop where
  prompt : ∀ s ∈ c.prompt.toJson.texts, s.IsUnicode
  stopTokens : ∀ s ∈ c.params.generation.stopTokens, s.IsUnicode
  model : ∀ m, c.Tells m → ∀ s ∈ m.texts, s.IsUnicode

variable {c : Call} {s : Settings} {policy : Policy} {url : Url}

theorem prepare_of_body_error {f : Failure} (h : Request.body c.prompt c.params = .error f) :
    (c.prepare s).value = .error (.failure f) := by
  simp only [prepare, Request.buildBody, Logged.map, h]

theorem prepare_of_headers_error {b : Members} {m : Mishap}
    (hb : Request.body c.prompt c.params = .ok b)
    (h : Request.headers c.params.backend? c.token? c.editor c.runtimeVersion = .error m) :
    (c.prepare s).value = .error m := by
  simp only [prepare, Request.buildBody, Logged.map, hb, h, bind, Except.bind]

theorem prepare_of_wireText_error {b : Members} {headers : Headers} {m : Mishap}
    (hpolicy : Policy.ofSettings s = .ok policy) (hurl : Url.ofText (Url.ofModel c.model) = .ok url)
    (hb : Request.body c.prompt c.params = .ok b)
    (hheaders : Request.headers c.params.backend? c.token? c.editor c.runtimeVersion = .ok headers)
    (h : Request.wireText b = .error m) : (c.prepare s).value = .error m := by
  simp only [prepare, Request.buildBody, Logged.map, hb, hheaders, assemble, hpolicy, hurl, h, bind,
    Except.bind, Except.mapError]

end Call

/-! ### Answers that are not read -/

/-- Reading a response gives generations or a failure, or gives up for depth. -/
theorem Response.read_cases (selected? : Option Backend) (t : Text) :
    (∃ gs, (read selected? t).value = .ok gs) ∨
      (∃ f, MayFail (payloadSize t) (Backend.resolve selected?) f ∧
        (read selected? t).value = .error (.failure f)) ∨
      Json.Reader.document rules t = .error .tooDeep := by
  rcases load_cases (Backend.resolve selected?) t with ⟨v, hv⟩ | hdeep | hmalformed
  · have hread := read_value_of_load hv
    cases hclassify : (classify (Backend.resolve selected?) (payloadSize t) v).value with
    | ok gs =>
      rw [hclassify] at hread
      exact .inl ⟨gs, hread⟩
    | error f =>
      rw [hclassify] at hread
      exact .inr (.inl ⟨f, mayFail_of_classify hclassify, hread⟩)
  · exact .inr (.inr (load_eq_tooDeep_iff.1 hdeep))
  · exact .inr (.inl ⟨_, .malformed _, read_value_of_load_error hmalformed⟩)

namespace Delivery

/-- Why an answer that arrived is not read: its content type cannot stand in a header, its URL has
no scheme, its parameters or its bytes, if there are any, cannot be read, or its text nests too
deep. -/
inductive Unread (url : Url) (a : Answer) : Mishap → Prop
  | contentType {run : NotAscii} (h : (a.contentType?.getD []).notAscii? = some run) :
      Unread url a (.rejection (.notAscii run))
  | scheme (hascii : (a.contentType?.getD []).notAscii? = none) (hscheme : url.scheme = []) :
      Unread url a (.rejection (.unknownUrlType url.toText))
  | parameters {m : Mishap} (hascii : (a.contentType?.getD []).notAscii? = none)
      (hscheme : url.scheme ≠ []) (hbody : a.body ≠ [])
      (h : ContentType.charset a.contentType? = .error m) : Unread url a m
  | bytes {charset : Charset} {fault : CharsetFault}
      (hascii : (a.contentType?.getD []).notAscii? = none) (hscheme : url.scheme ≠ [])
      (hbody : a.body ≠ []) (hcharset : ContentType.charset a.contentType? = .ok charset)
      (h : charset.decodeReplacing a.body = .error fault) : Unread url a (.ofCharsetFault fault)
  | depth {t : Text} (ht : a.Readable t) (hscheme : url.scheme ≠ [])
      (h : Json.Reader.document Response.rules t = .error .tooDeep) :
      Unread url a (.abort .tooDeep)

theorem conclude_of_unread {url : Url} {a : Answer} {m : Mishap} (h : Unread url a m) (c : Call) :
    (conclude c url (.ok a)).value = .error m := by
  cases h with
  | contentType h => simp only [conclude, accept, h, Logged.silent]
  | scheme hascii hscheme =>
    simp only [conclude, accept, hascii, hscheme, List.isEmpty_nil, if_true, Logged.silent]
  | parameters hascii hscheme hbody h =>
    exact conclude_of_text_error hascii (Answer.text_of_charset_error hbody h) c hscheme
  | bytes hascii hscheme hbody hcharset h =>
    have htext := Answer.text_of_charset hbody hcharset
    rw [h] at htext
    exact conclude_of_text_error hascii htext c hscheme
  | depth ht hscheme h =>
    rw [conclude_of_readable ht c hscheme]
    exact Response.read_value_of_load_error (Response.load_eq_tooDeep_iff.2 h)

end Delivery

end CompletionWire
