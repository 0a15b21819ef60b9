import CompletionWire.Proofs.Delivery.Endings
import CompletionWire.Proofs.Json.Readings

/-!
# Deliveries that send nothing

A request is made in a fixed order before anything is sent: its body, its headers, the text of the
body, part by part, and the bytes of this text. The first step that fails ends the delivery with its
own mishap, whatever is wrong with the later ones. What the script has to offer is not looked at
until all steps are done, so that a delivery that fails on the way is the same for all scripts.
-/

namespace CompletionWire

/-! ### Values without bytes -/

namespace Json

/-- A surrogate stands somewhere in the value, in a string or in a key. -/
def HoldsSurrogate (v : Json) : Prop := ∃ t ∈ v.texts, ∃ c ∈ t, c.isSurrogate = true

theorem not_isUnicode_write_iff {v : Json} :
    ¬(v.write .compact).IsUnicode ↔ v.HoldsSurrogate := by
  rw [isUnicode_write_iff Style.lawful_compact rfl]
  simp only [HoldsSurrogate, Text.IsUnicode]
  push Not
  simp only [ne_eq, Bool.not_eq_false]

end Json

/-- The surrogates that are reported are the first ones of the text that would be sent. -/
theorem Request.wireText_of_holdsSurrogate {body : Members}
    (hnone : (Json.object body).writeFault? wireLimits = none)
    (h : (Json.object body).HoldsSurrogate) :
    ∃ run, ((Json.object body).write .compact).encode? = .error run ∧
      wireText body = .error (.rejection (.notUnicode run)) := by
  cases hencode : ((Json.object body).write .compact).encode? with
  | ok bytes => exact absurd (Text.encode?_eq_ok_iff.1 hencode).1 (Json.not_isUnicode_write_iff.2 h)
  | error run =>
    have hwritable := (Json.writeFault?_eq_none_iff (by decide)).1 hnone
    exact ⟨run, rfl, wireText_of_encode?_error hwritable hencode⟩

namespace Delivery

/-! ### Refusals -/

/-- A delivery that ends with a mishap before anything is sent: there is no request and no wait, and
nothing of the script is used, since it is the same for all scripts. -/
structure Refused (c : Call) (s : Settings) (m : Mishap) : Prop where
  result_eq : ∀ script, (run c s script).result = .error m
  requests_eq : ∀ script, (run c s script).requests = []
  waits_eq : ∀ script, (run c s script).waits = []
  same : ∀ script script', run c s script = run c s script'

variable {c : Call} {s : Settings} {m : Mishap}

theorem run_of_prepare_error (h : (c.prepare s).value = .error m) (script : Script) :
    run c s script = ⟨[], [], (c.prepare s).events, .error m⟩ := by
  simp only [run, h]

theorem refused_of_prepare (h : (c.prepare s).value = .error m) : Refused c s m where
  result_eq script := by rw [run_of_prepare_error h]
  requests_eq script := by rw [run_of_prepare_error h]
  waits_eq script := by rw [run_of_prepare_error h]
  same script script' := by rw [run_of_prepare_error h, run_of_prepare_error h]

/-- The first fault of a call is the one that is reported, and nothing is sent. A body that cannot
be built comes first, whatever the headers are; illegal headers come next, whatever is in the body;
then the first part of the body that is not written, in the order of writing, and there is one if a
number anywhere in it is not finite; and then a lone surrogate, anywhere in the body. -/
theorem refused_at_first_fault (c : Call) (s : Settings) :
    (∀ f, Request.body c.prompt c.params = .error f → Refused c s (.failure f)) ∧
    ∀ body, Request.body c.prompt c.params = .ok body →
      (∀ m, Request.headers c.params.backend? c.token? c.editor c.runtimeVersion = .error m →
        Refused c s m) ∧
      ∀ headers url policy,
        Request.headers c.params.backend? c.token? c.editor c.runtimeVersion = .ok headers →
        Url.ofText (Url.ofModel c.model) = .ok url → Policy.ofSettings s = .ok policy →
        (∀ fault, (Json.object body).writeFault? Request.wireLimits = some fault →
          Refused c s (.ofWriteFault fault)) ∧
        ((Json.object body).HoldsNonFinite →
          (∃ fault, (Json.object body).writeFault? Request.wireLimits = some fault) ∧
          ((Json.object body).IsWithin Request.wireLimits → Refused c s (.rejection .notFinite))) ∧
        ((Json.object body).writeFault? Request.wireLimits = none →
          (Json.object body).HoldsSurrogate →
          ∃ run, ((Json.object body).write .compact).encode? = .error run ∧
            Refused c s (.rejection (.notUnicode run))) := by
  refine ⟨?_, ?_⟩
  · intro f hf
    exact refused_of_prepare (Call.prepare_of_body_error hf)
  intro body hbody
  refine ⟨?_, ?_⟩
  · intro m hm
    exact refused_of_prepare (Call.prepare_of_headers_error hbody hm)
  intro headers url policy hheaders hurl hpolicy
  have hwritten {m : Mishap} (hm : Request.wireText body = .error m) : Refused c s m :=
    refused_of_prepare (Call.prepare_of_wireText_error hpolicy hurl hbody hheaders hm)
  refine ⟨?_, ?_, ?_⟩
  · intro fault hfault
    exact hwritten (Request.wireText_of_writeFault? hfault)
  · intro hnumber
    obtain ⟨fault, hfault⟩ : ∃ fault,
        (Json.object body).writeFault? Request.wireLimits = some fault :=
      Json.exists_writeFault? (by decide) hnumber
    refine ⟨⟨fault, hfault⟩, fun hwithin => ?_⟩
    obtain rfl := Json.eq_notFinite_of_writeFault? (by decide) hwithin hfault
    exact hwritten (Request.wireText_of_writeFault? hfault)
  · intro hnone hsurrogate
    obtain ⟨run, hrun, hm⟩ := Request.wireText_of_holdsSurrogate hnone hsurrogate
    exact ⟨run, hrun, hwritten hm⟩

/-- Five calls, each without the fault that the one before it is refused for: a missing model, an
illegal token, a number of too many digits deep in the model, behind it one that is not finite, and
a surrogate in front of both. -/
theorem refused_at_first_fault_each :
    let asking (model? : Option Json) (token : Text) : Call :=
      { Call.plain (text "gpt2") (text "hi") with
        params :=
          { backend? := some .openAi, requestBody? := some (model?.toList.map (text "model", ·)) }
        token? := some token }
    let surrogate : Json := .string [CodePoint.ofNat 0xD800]
    let long : Json := .array [.int (10 ^ 4300)]
    let number : Json := .object [(text "a", .array [.float .nan])]
    let s := Settings.ofEnvironment []
    Refused (asking none (text "\n")) s (.failure (.missingModel .openAi)) ∧
    Refused (asking (some (.array [surrogate, long, number])) (text "\n")) s
      (.failure (.invalidHeader (text "Authorization") (some .openAi))) ∧
    Refused (asking (some (.array [surrogate, long, number])) (text "t")) s
      (.rejection (.tooManyDigits none)) ∧
    Refused (asking (some (.array [surrogate, number])) (text "t")) s (.rejection .notFinite) ∧
    ∃ run, Refused (asking (some (.array [surrogate])) (text "t")) s
      (.rejection (.notUnicode run)) := by
  intro asking surrogate long number s
  have hpolicy := Policy.ofSettings_of_hasExactWaits (s := s) ⟨by decide, by decide⟩
  obtain ⟨url, written, -, hsendable⟩ := Call.sendable_plain
  have hfaults (model? : Option Json) (token : Text) :=
    refused_at_first_fault (asking model? token) s
  refine ⟨?_, ?_, ?_, ?_, ?_⟩
  · exact (hfaults none (text "\n")).1 _ rfl
  · have hunsent := (hfaults (some (.array [surrogate, long, number])) (text "\n")).2 _ rfl
    exact hunsent.1 _ rfl
  · have hunsent := (hfaults (some (.array [surrogate, long, number])) (text "t")).2 _ rfl
    have hunwritten := hunsent.2 _ _ _ rfl hsendable.url_eq hpolicy
    exact hunwritten.1 .tooManyDigits (by decide +kernel)
  · have hunsent := (hfaults (some (.array [surrogate, number])) (text "t")).2 _ rfl
    have hunwritten := hunsent.2 _ _ _ rfl hsendable.url_eq hpolicy
    exact hunwritten.1 .notFinite (by decide +kernel)
  · have hunsent := (hfaults (some (.array [surrogate])) (text "t")).2 _ rfl
    have hunwritten := hunsent.2 _ _ _ rfl hsendable.url_eq hpolicy
    obtain ⟨run, -, hrefused⟩ := hunwritten.2.2 (by decide +kernel)
      ⟨[CodePoint.ofNat 0xD800], by decide, CodePoint.ofNat 0xD800, by decide, by decide⟩
    exact ⟨run, hrefused⟩

end Delivery

end CompletionWire
