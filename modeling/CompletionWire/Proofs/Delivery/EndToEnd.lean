import CompletionWire.Proofs.Delivery.Trace
import CompletionWire.Proofs.Json.Alphabet
import CompletionWire.Proofs.Response.Classification
import CompletionWire.Proofs.Response.ContentTypes
import CompletionWire.Proofs.Response.Loading
import Mathlib.Data.List.Nodup

/-!
# From a backend's texts to the generations

A backend that has texts to give renders them in its own shape of JSON and sends the bytes of that.
As long as one attempt is left when they arrive, a delivery results in these texts and no others, in
their order: the attempts before, the status, the layout and the escapes of the JSON make no
difference.
-/

namespace CompletionWire

/-! ### Shapes -/

namespace Response

def single (key : String) (t : Text) : Json := .object [(text key, .string t)]

/-- How a backend renders texts as a value; two of them have just one text to give. -/
inductive Renders : Backend → List Text → Json → Prop
  | huggingFace (ts : List Text) :
      Renders .huggingFace ts (.array (ts.map (single "generated_text")))
  | tgi (t : Text) : Renders .tgi [t] (single "generated_text" t)
  | ollama (t : Text) : Renders .ollama [t] (single "response" t)
  | openAi (ts : List Text) :
      Renders .openAi ts (.object [(text "choices", .array (ts.map (single "text")))])

theorem holdsGeneration_single (key : String) (t : Text) :
    HoldsGeneration (text key) (single key t) ⟨t⟩ :=
  ⟨_, rfl, by rw [Members.find?, if_pos rfl]⟩

theorem isArrayOf_single (key : String) (ts : List Text) :
    (Json.array (ts.map (single key))).IsArrayOf (HoldsGeneration (text key))
      (ts.map Generation.mk) := by
  refine ⟨_, rfl, ?_⟩
  rw [List.forall₂_map_left_iff, List.forall₂_map_right_iff]
  exact List.forall₂_same.2 fun t _ => holdsGeneration_single key t

theorem classify_of_renders {backend : Backend} {ts : List Text} {v : Json}
    (h : Renders backend ts v) (size : Nat) :
    (classify backend size v).value = .ok (ts.map Generation.mk) := by
  rw [← firstFit_iff_classify]
  cases h with
  | huggingFace ts =>
    have hnot (r : Outcome) :
        ¬Row.one "generated_text" (.array (ts.map (single "generated_text"))) r := by
      rintro ⟨g, ⟨members, hmembers, -⟩, -⟩
      cases hmembers
    exact .later hnot (.here ⟨_, isArrayOf_single _ ts, rfl⟩)
  | tgi t => exact .here ⟨_, holdsGeneration_single _ t, rfl⟩
  | ollama t => exact .here ⟨_, holdsGeneration_single _ t, rfl⟩
  | openAi ts =>
    exact .here ⟨_, ⟨_, _, rfl, by rw [Members.find?, if_pos rfl], isArrayOf_single _ ts⟩, rfl⟩

theorem wellFormed_single (key : String) (t : Text) : (single key t).WellFormed 4300 := by
  refine .of_members (List.nodup_singleton _) (List.forall_mem_singleton.2 ?_)
  exact List.forall_mem_singleton.2 trivial

theorem wellFormed_of_renders {backend : Backend} {ts : List Text} {v : Json}
    (h : Renders backend ts v) : v.WellFormed 4300 := by
  have hitems (key : String) (ts : List Text) :
      (Json.array (ts.map (single key))).WellFormed 4300 :=
    .of_items (List.forall_mem_map.2 fun t _ => wellFormed_single key t)
  cases h with
  | huggingFace ts => exact hitems _ ts
  | tgi t => exact wellFormed_single _ t
  | ollama t => exact wellFormed_single _ t
  | openAi ts =>
    exact .of_members (List.nodup_singleton _) (List.forall_mem_singleton.2 (hitems _ ts))

theorem depth_of_renders {backend : Backend} {ts : List Text} {v : Json}
    (h : Renders backend ts v) : v.depth ≤ rules.maxDepth := by
  have hitems (key : String) (ts : List Text) : (Json.array (ts.map (single key))).depth ≤ 2 :=
    Nat.succ_le_succ (Json.itemsDepth_le (List.forall_mem_map.2 fun t _ => Nat.le_refl 1))
  have hle : 3 ≤ rules.maxDepth := by decide
  cases h with
  | huggingFace ts => exact (hitems _ ts).trans (by omega)
  | tgi t => exact Nat.le_trans (Nat.le_refl 1) (by omega)
  | ollama t => exact Nat.le_trans (Nat.le_refl 1) (by omega)
  | openAi ts =>
    have hobject : (Json.object [(text "choices", .array (ts.map (single "text")))]).depth ≤ 3 :=
      Nat.succ_le_succ (Nat.max_le.2 ⟨hitems _ ts, Nat.zero_le 2⟩)
    exact hobject.trans hle

theorem isUnicode_of_renders {backend : Backend} {ts : List Text} {v : Json}
    (h : Renders backend ts v) (hts : ∀ t ∈ ts, t.IsUnicode) : ∀ s ∈ v.texts, s.IsUnicode := by
  have hsingle {key : String} (hkey : (text key).IsUnicode) {t : Text} (ht : t.IsUnicode) :
      ∀ s ∈ (single key t).texts, s.IsUnicode :=
    Json.forall_texts_object.2 (List.forall_mem_singleton.2
      ⟨hkey, List.forall_mem_singleton.2 ht⟩)
  have hitems {key : String} (hkey : (text key).IsUnicode) {ts : List Text}
      (hts : ∀ t ∈ ts, t.IsUnicode) :
      ∀ s ∈ (Json.array (ts.map (single key))).texts, s.IsUnicode :=
    Json.forall_texts_array.2 (List.forall_mem_map.2 fun t ht => hsingle hkey (hts t ht))
  cases h with
  | huggingFace ts => exact hitems (by decide) hts
  | tgi t => exact hsingle (by decide) (hts t (List.mem_singleton_self t))
  | ollama t => exact hsingle (by decide) (hts t (List.mem_singleton_self t))
  | openAi ts =>
    have hkey : (text "choices").IsUnicode := by decide
    exact Json.forall_texts_object.2 (List.forall_mem_singleton.2
      ⟨hkey, hitems (by decide) hts⟩)

theorem utf8_write_ne_nil {backend : Backend} {ts : List Text} {v : Json}
    (h : Renders backend ts v) (style : Json.Style) : (v.write style).utf8 ≠ [] := by
  rw [Ne, Text.utf8_eq_nil_iff]
  cases h <;> exact List.cons_ne_nil _ _

/-- A text without surrogates that is rendered in ASCII or not is read as the texts it renders. -/
theorem read_of_renders {selected? : Option Backend} {ts : List Text} {v : Json}
    (h : Renders (Backend.resolve selected?) ts v) (hts : ∀ t ∈ ts, t.IsUnicode)
    {style : Json.Style} (hstyle : style.Lawful) :
    (read selected? (v.write style)).value = .ok (ts.map Generation.mk) := by
  have hload : (load (Backend.resolve selected?) (v.write style)).value = .ok v := by
    have hrules : rules.Admit 4300 v :=
      ⟨rfl, rfl, by decide, wellFormed_of_renders h, depth_of_renders h⟩
    have hread := (Json.document_write_eq_ok_iff hrules hstyle Json.Grammar.isBlanks_nil).2
      fun _ s hs => Text.not_hasSurrogatePair (isUnicode_of_renders h hts s hs)
    rw [List.append_nil] at hread
    exact load_eq_ok_iff.2 hread
  rw [read_value_of_load hload, classify_of_renders h]
  rfl

end Response

/-! ### Answers -/

namespace Answer

/-- An answer whose bytes are read as UTF-8: its content type says so or says nothing of it. -/
structure IsUtf8 (a : Answer) : Prop where
  ascii : (a.contentType?.getD []).notAscii? = none
  charset_eq : ContentType.charset a.contentType? = .ok (.utf8 false)

theorem text_utf8 {a : Answer} (hcharset : ContentType.charset a.contentType? = .ok (.utf8 false))
    {t : Text} (ht : t.IsUnicode) (hbody : a.body = t.utf8) : a.text = .ok t := by
  by_cases hnil : a.body = []
  · obtain rfl := Text.utf8_eq_nil_iff.1 (hbody.symm.trans hnil)
    exact text_of_nil hnil
  · rw [text_of_charset hnil hcharset, hbody, Charset.decodeReplacing_utf8 ht]
    rfl

theorem readable_of_isUtf8 {a : Answer} (ha : a.IsUtf8) {t : Text} (ht : t.IsUnicode)
    (hbody : a.body = t.utf8) : a.Readable t :=
  ⟨ha.ascii, text_utf8 ha.charset_eq ht hbody⟩

end Answer

/-! ### Scripts -/

namespace Script

variable {failures : List NetworkError} {a : Answer} {rest : Script}

theorem settled?_failures (h : ∀ e ∈ failures, e.isTransport = true) :
    settled? (failures.map .error ++ .answer a :: rest) = some failures.length := by
  induction failures with
  | nil => exact settled?_of_not_isRetryable rfl
  | cons e failures ih =>
    obtain ⟨he, hfailures⟩ := List.forall_mem_cons.1 h
    have hretryable : (next (.error e :: (failures.map .error ++ .answer a :: rest))).isRetryable =
        true := he
    rw [List.map_cons, List.cons_append, settled?_of_isRetryable hretryable, List.tail_cons,
      ih hfailures]
    rfl

theorem entry_failures (failures : List NetworkError) :
    entry (failures.map .error ++ .answer a :: rest) failures.length = .answer a := by
  rw [entry, List.getElem?_append_right (by rw [List.length_map]), List.length_map, Nat.sub_self]
  rfl

end Script

namespace Delivery

theorem run_of_failures {c : Call} {url : Url} {written : Text} (h : c.Sendable url written)
    {s : Settings} {policy : Policy} (hpolicy : Policy.ofSettings s = .ok policy)
    {failures : List NetworkError} (hfailures : ∀ e ∈ failures, e.isTransport = true)
    (hcount : failures.length < s.attemptLimit) (script : Script) {a : Answer}
    {rest : Script} (hscript : script = failures.map .error ++ .answer a :: rest) :
    (∃ request : SentRequest, request.url = url ∧ request.body = written ∧
      (run c s script).requests = List.replicate (failures.length + 1) request) ∧
    (run c s script).result = (conclude c url (.ok a)).value := by
  obtain ⟨request, hurl, hwritten, hrequests, -, hresult⟩ := run_of_policy h hpolicy script
  subst hscript
  rw [Script.attempts_of_settled (Script.settled?_failures hfailures) hcount] at hrequests hresult
  rw [Nat.add_sub_cancel, Script.entry_failures] at hresult
  exact ⟨⟨request, hurl, hwritten, hrequests⟩, hresult⟩

/-- If errors of the transport use up all attempts but one at most, and then the bytes of some
texts' rendering arrive, in whatever style, with whatever status and whatever else may be there to
arrive, one request is sent for each error and one more. If the bytes are read as UTF-8, the
delivery ends with exactly these texts. If the answer says that they are UTF-8, they are read so
unless segments in its content type have no order, and it is the fault of these that ends the
delivery then. -/
theorem run_delivers_unless_disordered {c : Call} {url : Url} {written : Text}
    (h : c.Sendable url written) (hscheme : url.scheme ≠ []) {s : Settings} {policy : Policy}
    (hpolicy : Policy.ofSettings s = .ok policy) {ts : List Text} (hts : ∀ t ∈ ts, t.IsUnicode)
    {v : Json} (hv : Response.Renders c.params.backend ts v) {style : Json.Style}
    (hstyle : style.Lawful) {a : Answer} (hascii : (a.contentType?.getD []).notAscii? = none)
    (hbody : a.body = (v.write style).utf8) {failures : List NetworkError}
    (hfailures : ∀ e ∈ failures, e.isTransport = true) (hcount : failures.length < s.attemptLimit)
    (rest : Script) :
    let d := run c s (failures.map .error ++ .answer a :: rest)
    (∃ request : SentRequest, request.url = url ∧ request.body = written ∧
      d.requests = List.replicate (failures.length + 1) request) ∧
    (ContentType.charset a.contentType? = .ok (.utf8 false) →
      d.result = .ok (ts.map Generation.mk)) ∧
    (ContentType.SaysUtf8 a.contentType? →
      (∀ found, ContentType.parameters (a.contentType?.getD []) = .ok found →
        d.result = .ok (ts.map Generation.mk)) ∧
      ∀ m, ContentType.parameters (a.contentType?.getD []) = .error m →
        ContentType.Disorder m ∧ d.result = .error m) := by
  intro d
  obtain ⟨hrequests, hresult⟩ := run_of_failures h hpolicy hfailures hcount
    (failures.map .error ++ .answer a :: rest) rfl
  have hdelivers (hcharset : ContentType.charset a.contentType? = .ok (.utf8 false)) :
      d.result = .ok (ts.map Generation.mk) := by
    have hunicode := Json.isUnicode_write hstyle (Response.wellFormed_of_renders hv)
      fun _ => Response.isUnicode_of_renders hv hts
    have ha : a.Readable (v.write style) := ⟨hascii, Answer.text_utf8 hcharset hunicode hbody⟩
    rw [show d.result = _ from hresult, conclude_of_readable ha c hscheme]
    exact Response.read_of_renders hv hts hstyle
  refine ⟨hrequests, hdelivers, fun hsays => ⟨?_, ?_⟩⟩
  · rintro ⟨plain, groups⟩ hfound
    exact hdelivers (ContentType.charset_of_saysUtf8 hsays hfound)
  · intro m hm
    refine ⟨ContentType.disorder_of_parameters hm, ?_⟩
    have hne : a.body ≠ [] := hbody ▸ Response.utf8_write_ne_nil hv style
    have htext := Answer.text_of_charset_error hne (ContentType.charset_of_parameters_error hm)
    rw [show d.result = _ from hresult]
    exact conclude_of_text_error hascii htext c hscheme

/-- The second and last attempt brings two texts, one of them empty, in ASCII. -/
theorem run_delivers_second_attempt :
    let c := Call.plain (text "gpt2") (text "hi")
    let env : Environment := [(Settings.attemptsVariable, text "2")]
    let ts : List Text := [[CodePoint.ofNat 0x1F600], []]
    let v := Json.array (ts.map (Response.single "generated_text"))
    let a : Answer := ⟨503, some (text "text/plain; charset=utf8"), (v.write .spaced).utf8⟩
    let d := run c (Settings.ofEnvironment env) [.error (.transport .readTimeout []), .answer a]
    d.result = .ok (ts.map Generation.mk) ∧ d.requests.length = 2 := by
  intro c env ts v a d
  obtain ⟨url, written, hscheme, hsendable⟩ := Call.sendable_plain
  have hpolicy : Policy.ofSettings (Settings.ofEnvironment env) = .ok (Policy.exact _) :=
    Policy.ofSettings_of_hasExactWaits ⟨by decide, by decide⟩
  have hts : ∀ t ∈ ts, t.IsUnicode := by decide
  have hfailures : ∀ e ∈ [NetworkError.transport .readTimeout []], e.isTransport = true := by
    decide
  obtain ⟨⟨request, -, -, hrequests⟩, -, hdelivers⟩ := run_delivers_unless_disordered hsendable
    hscheme hpolicy hts (.huggingFace ts) Json.Style.lawful_spaced (a := a) (by decide) rfl hfailures
    (by decide) []
  have hsays : ContentType.SaysUtf8 a.contentType? :=
    .named (p := (text "charset", text "utf8")) (by decide) (by rfl)
  refine ⟨(hdelivers hsays).1 _ (by rfl), ?_⟩
  rw [show d.requests = _ from hrequests, List.length_replicate]
  rfl

/-- An answer in UTF-8 is not delivered for two segments of another parameter, of which only one is
numbered. -/
theorem run_disordered_segments_undelivered :
    let c := Call.plain (text "gpt2") (text "hi")
    let s := Settings.ofEnvironment []
    let v := Json.array [Response.single "generated_text" (text "x")]
    let a : Answer := ⟨200,
      some (text "application/json; charset=utf-8; filename*=utf-8''x; filename*0=y"),
      (v.write .spaced).utf8⟩
    let d := run c s [.answer a]
    (∃ url written, c.Sendable url written) ∧ (∃ policy, Policy.ofSettings s = .ok policy) ∧
      Response.Renders c.params.backend [text "x"] v ∧ 0 < s.attemptLimit ∧
      ContentType.SaysUtf8 a.contentType? ∧ d.requests.length = 1 ∧
      d.result = .error (.abort (.charset (.unevenSegments false))) ∧
      d.result ≠ .ok [⟨text "x"⟩] := by
  intro c s v a d
  obtain ⟨url, written, hscheme, hsendable⟩ := Call.sendable_plain
  have hpolicy := Policy.ofSettings_of_hasExactWaits (s := s) ⟨by decide, by decide⟩
  have hcharset : ContentType.charset a.contentType? =
      .error (.abort (.charset (.unevenSegments false))) := by rfl
  have hne : a.body ≠ [] := Response.utf8_write_ne_nil (.huggingFace [text "x"]) .spaced
  have htext := Answer.text_of_charset_error hne hcharset
  have hfailures : ∀ e ∈ ([] : List NetworkError), e.isTransport = true := nofun
  obtain ⟨⟨request, -, -, hrequests⟩, hrun⟩ := run_of_failures hsendable hpolicy hfailures
    s.attemptLimit_pos [.answer a] rfl
  have hresult : d.result = .error (.abort (.charset (.unevenSegments false))) :=
    hrun.trans (conclude_of_text_error (by decide) htext c hscheme)
  refine ⟨⟨url, written, hsendable⟩, ⟨_, hpolicy⟩, .huggingFace [text "x"], s.attemptLimit_pos,
    .named (p := (text "charset", text "utf-8")) (by decide)
      (ContentType.charsetOf_of_normalName (by decide) (by decide)), ?_, hresult, ?_⟩
  · rw [hrequests, List.length_replicate]
    rfl
  · rw [hresult]
    nofun

end Delivery

end CompletionWire
