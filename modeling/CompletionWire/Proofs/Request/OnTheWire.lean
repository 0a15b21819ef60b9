import CompletionWire.Proofs.Request.Content
import CompletionWire.Proofs.Response.RoundTrip

/-!
# Bodies on the wire

What is sent of a body is read as this body again, so that all a call says to its backend can be
told from the text on the wire, and nothing else about the call can.
-/

namespace CompletionWire

namespace Json

/-- A value that can be sent and read again: it is well-formed, and its texts have bytes. -/
structure Sendable (v : Json) : Prop where
  wellFormed : v.WellFormed 4300
  isUnicode : ∀ s ∈ v.texts, s.IsUnicode

namespace Sendable

theorem of_items {xs : List Json} (h : ∀ x ∈ xs, x.Sendable) : (array xs).Sendable :=
  ⟨.of_items fun x hx => (h x hx).wellFormed,
    forall_texts_array.2 fun x hx => (h x hx).isUnicode⟩

theorem of_members {ms : Members} (keys : List Text) (hms : ms.map Prod.fst = keys)
    (hkeys : keys.Nodup) (hunicode : ∀ k ∈ keys, k.IsUnicode) (h : ∀ m ∈ ms, m.2.Sendable) :
    (object ms).Sendable := by
  subst hms
  exact ⟨.of_members hkeys fun m hm => (h m hm).wellFormed, forall_texts_object.2 fun m hm =>
    ⟨hunicode m.1 (List.mem_map_of_mem hm), (h m hm).isUnicode⟩⟩

theorem of_string {s : Text} (h : s.IsUnicode) : (string s).Sendable :=
  ⟨List.forall_mem_singleton.2 trivial, List.forall_mem_singleton.2 h⟩

theorem of_bool (b : Bool) : (bool b).Sendable :=
  ⟨List.forall_mem_singleton.2 trivial, fun _ hs => nomatch hs⟩

theorem of_int {n : Int} (h : n.natAbs < 10 ^ 4300) : (int n).Sendable :=
  ⟨List.forall_mem_singleton.2 h, fun _ hs => nomatch hs⟩

theorem of_float {x : Binary64} (h : x.isFinite = true) : (float x).Sendable :=
  ⟨List.forall_mem_singleton.2 h, fun _ hs => nomatch hs⟩

end Sendable

end Json

namespace Request

/-- A call whose numbers and texts can be sent. -/
structure Encodable (prompt : Prompt) (p : CompletionParams) : Prop where
  prompt : prompt.toJson.Sendable
  maxNewTokens : p.generation.maxNewTokens < 10 ^ 4300
  temperature : p.generation.temperature.isFinite = true
  topP : p.generation.topP.isFinite = true
  stopTokens : ∀ s ∈ p.generation.stopTokens, s.IsUnicode
  model : ∀ m, p.requestBody?.bind (Members.find? (text "model")) = some m → m.Sendable

theorem sendable_members {backend : Backend} {prompt : Prompt} {m : Json} {p : GenerationParams}
    (hprompt : prompt.toJson.Sendable) (hm : NeedsModel backend → m.Sendable)
    (hcount : p.maxNewTokens < 10 ^ 4300) (htemperature : p.temperature.isFinite = true)
    (htopP : p.topP.isFinite = true) (hstop : ∀ s ∈ p.stopTokens, s.IsUnicode) :
    (Json.object (members backend prompt m p)).Sendable := by
  have hstopList : (stopList p).Sendable :=
    .of_items (List.forall_mem_map.2 fun s hs => .of_string (hstop s hs))
  have hcount : (Json.int p.maxNewTokens).Sendable := .of_int (by rwa [Int.natAbs_natCast])
  have htemperature := Json.Sendable.of_float htemperature
  have htopP := Json.Sendable.of_float htopP
  cases backend with
  | huggingFace | tgi =>
    refine .of_members [text "inputs", text "parameters"] rfl (by decide) (by decide) ?_
    refine List.forall_mem_cons.2 ⟨hprompt, List.forall_mem_singleton.2 ?_⟩
    refine .of_members [text "max_new_tokens", text "temperature", text "do_sample", text "top_p",
      text "stop_tokens"] rfl (by decide) (by decide) ?_
    simp only [List.forall_mem_cons, List.not_mem_nil, false_implies, implies_true, and_true]
    exact ⟨hcount, htemperature, .of_bool _, htopP, hstopList⟩
  | ollama =>
    rw [members, ollamaBody]
    refine .of_members [text "prompt", text "model", text "stream", text "options"] rfl (by decide)
      (by decide) ?_
    simp only [List.forall_mem_cons, List.not_mem_nil, false_implies, implies_true, and_true]
    refine ⟨hprompt, hm (.inl rfl), .of_bool _, ?_⟩
    refine .of_members [text "num_predict", text "temperature", text "top_p", text "stop"] rfl
      (by decide) (by decide) ?_
    simp only [List.forall_mem_cons, List.not_mem_nil, false_implies, implies_true, and_true]
    exact ⟨hcount, htemperature, htopP, hstopList⟩
  | openAi =>
    rw [members, openAiBody]
    refine .of_members [text "prompt", text "model", text "max_tokens", text "temperature",
      text "top_p", text "stop"] rfl (by decide) (by decide) ?_
    simp only [List.forall_mem_cons, List.not_mem_nil, false_implies, implies_true, and_true]
    exact ⟨hprompt, hm (.inr rfl), hcount, htemperature, htopP, hstopList⟩

theorem sendable_body {prompt : Prompt} {p : CompletionParams} (h : Encodable prompt p)
    {b : Members} (hb : body prompt p = .ok b) : (Json.object b).Sendable := by
  obtain ⟨m, rfl, hgiven, -⟩ := body_spec hb
  exact sendable_members h.prompt (fun hneeds => h.model m (hgiven hneeds)) h.maxNewTokens
    h.temperature h.topP h.stopTokens

theorem read_sent {b : Members} (h : (Json.object b).Sendable) {depth : Nat}
    (hdepth : (Json.object b).depth ≤ depth) :
    Json.read ⟨some 4300, depth, false⟩ ((Json.object b).write .compact) = .ok (.object b) := by
  have hrules : Json.Rules.Admit ⟨some 4300, depth, false⟩ 4300 (.object b) :=
    ⟨rfl, rfl, by decide, h.wellFormed, hdepth⟩
  have hread := (Json.document_write_eq_ok_iff hrules Json.Style.lawful_compact
    Json.Grammar.isBlanks_nil).2 fun hascii => nomatch hascii
  rw [List.append_nil] at hread
  exact Json.read_eq_ok_iff.2 hread

/-- The text on the wire tells bodies apart. -/
theorem body_eq_of_wireText_eq {b b' : Members} (h : (Json.object b).Sendable)
    (h' : (Json.object b').Sendable) {written : Text} (hb : wireText b = .ok written)
    (hb' : wireText b' = .ok written) : b' = b := by
  obtain ⟨hwritable, -, rfl⟩ := wireText_eq_ok_iff.1 hb
  obtain ⟨hwritable', -, hwritten⟩ := wireText_eq_ok_iff.1 hb'
  have hread := read_sent h hwritable.depth_le
  rw [hwritten, read_sent h' hwritable'.depth_le] at hread
  exact Json.object.inj (Except.ok.inj hread)

/-- A call fails for want of a model exactly if its backend needs one and its object has none but
null; the backends that need none have the same bodies. What is built has the documented order and
the caller's own model, and tells the content of the call. It is sent unless it nests too deep, as a
text that is read as itself again, which another call to this backend sends exactly if it has the
same content. -/
theorem body_on_the_wire {prompt : Prompt} {p : CompletionParams} (h : Encodable prompt p) :
    (body prompt p = .error (.missingModel p.backend) ↔ NeedsModel p.backend ∧ LacksModel p) ∧
    (¬(NeedsModel p.backend ∧ LacksModel p) → ∃ b, body prompt p = .ok b) ∧
    (∀ q : CompletionParams, ¬NeedsModel p.backend → ¬NeedsModel q.backend →
      q.generation = p.generation → body prompt q = body prompt p) ∧
    ∀ b, body prompt p = .ok b →
      (Layout.of p.backend).Orders b ∧
      (NeedsModel p.backend → b.find? (text "model") =
        p.requestBody?.bind (Members.find? (text "model"))) ∧
      Content.ofJson? (Layout.of p.backend) (.object b) = some (Content.ofCall prompt p) ∧
      ((∃ written, wireText b = .ok written) ↔ (Json.object b).depth ≤ wireLimits.maxDepth) ∧
      ∀ written, wireText b = .ok written →
        (∀ depth, (Json.object b).depth ≤ depth →
          Json.read ⟨some 4300, depth, false⟩ written = .ok (.object b)) ∧
        ∀ prompt' q b', Encodable prompt' q → q.backend = p.backend → body prompt' q = .ok b' →
          (wireText b' = .ok written ↔ Content.ofCall prompt' q = Content.ofCall prompt p) := by
  refine ⟨?_, ?_, fun q hp hq hgeneration => ?_, fun b hb => ?_⟩
  · rcases body_cases prompt p with ⟨hneeds, hlacks, hbody⟩ | ⟨hnot, m, -, hbody⟩
    · exact iff_of_true hbody ⟨hneeds, hlacks⟩
    · exact iff_of_false (fun herror => nomatch hbody.symm.trans herror) hnot
  · intro hnot
    rcases body_cases prompt p with ⟨hneeds, hlacks, -⟩ | ⟨-, m, -, hbody⟩
    · exact absurd ⟨hneeds, hlacks⟩ hnot
    · exact ⟨_, hbody⟩
  · rw [body_of_not_needsModel prompt hp, body_of_not_needsModel prompt hq, hgeneration]
  · have hsendable := sendable_body h hb
    refine ⟨?_, fun hneeds => ?_, ofJson?_body hb, ?_, fun written hwritten => ?_⟩
    · obtain ⟨m, rfl, -, -⟩ := body_spec hb
      exact orders_members p.backend prompt m p.generation
    · obtain ⟨m, rfl, hgiven, -⟩ := body_spec hb
      rw [find?_model_members hneeds, hgiven hneeds]
    · constructor
      · rintro ⟨written, hwritten⟩
        exact (wireText_eq_ok_iff.1 hwritten).1.depth_le
      · intro hdepth
        exact ⟨_, wireText_eq_ok hsendable.wellFormed hdepth hsendable.isUnicode⟩
    · obtain ⟨-, -, htext⟩ := wireText_eq_ok_iff.1 hwritten
      refine ⟨fun depth hdepth => htext ▸ read_sent hsendable hdepth,
        fun prompt' q b' h' hbackend hb' => ?_⟩
      rw [← body_eq_iff hbackend hb' hb]
      constructor
      · intro hwritten'
        exact body_eq_of_wireText_eq hsendable (sendable_body h' hb') hwritten hwritten'
      · intro heq
        exact heq ▸ hwritten

/-- A model that is false is a model. -/
theorem body_on_the_wire_false_model :
    let p : CompletionParams :=
      { backend? := some .ollama, requestBody? := some [(text "model", .bool false)] }
    let b := ollamaBody (.text (text "hi")) (.bool false) {}
    body (.text (text "hi")) p = .ok b ∧ ∃ written, wireText b = .ok written ∧
      Json.read ⟨some 4300, 3, false⟩ written = .ok (.object b) := by
  intro p b
  have hcount (n : Nat) (hn : 2 ≤ n) : 60 < 10 ^ n :=
    Nat.lt_of_lt_of_le (show 60 < 10 ^ 2 by decide) (Nat.pow_le_pow_right (by decide) hn)
  have hp : Encodable (.text (text "hi")) p := {
    prompt := .of_string (by decide)
    maxNewTokens := hcount 4300 (by decide)
    temperature := by decide +kernel
    topP := by decide +kernel
    stopTokens := fun _ hs => nomatch hs
    model := fun m hm => Option.some.inj hm ▸ .of_bool false }
  have hbody : body (.text (text "hi")) p = .ok b := by rfl
  obtain ⟨-, -, -, hwire⟩ := body_on_the_wire hp
  obtain ⟨-, -, -, hsent, hread⟩ := hwire b hbody
  obtain ⟨written, hwritten⟩ := hsent.2 (by decide)
  exact ⟨hbody, written, hwritten, (hread written hwritten).1 3 (by decide)⟩

end Request

/-! ### Numbers that are not finite -/

structure CompletionParams.TellsFinite (p : CompletionParams) : Prop where
  temperature : p.generation.temperature.isFinite = true
  topP : p.generation.topP.isFinite = true
  model : Request.NeedsModel p.backend →
    ∀ m, p.requestBody?.bind (Members.find? (text "model")) = some m → m.isFinite = true

namespace Request

theorem isFinite_stopList (p : GenerationParams) : (stopList p).isFinite = true := by
  rw [stopList, Json.isFinite, Json.itemsFinite_eq, List.all_map]
  exact List.all_eq_true.2 fun s _ => rfl

theorem isFinite_members (backend : Backend) (prompt : Prompt) (m : Json) (p : GenerationParams) :
    (Json.object (members backend prompt m p)).isFinite = true ↔
      p.temperature.isFinite = true ∧ p.topP.isFinite = true ∧
        (NeedsModel backend → m.isFinite = true) := by
  have hprompt : prompt.toJson.isFinite = true := by cases prompt <;> rfl
  have hstop := isFinite_stopList p
  cases backend with
  | huggingFace | tgi =>
    simp [members, textGenerationBody, NeedsModel, Json.isFinite, Json.membersFinite, hprompt, hstop]
  | ollama =>
    simp [members, ollamaBody, NeedsModel, Json.isFinite, Json.membersFinite, hprompt, hstop,
      and_assoc, and_comm]
  | openAi =>
    simp [members, openAiBody, NeedsModel, Json.isFinite, Json.membersFinite, hprompt, hstop,
      and_assoc, and_comm]

theorem isFinite_body_iff {prompt : Prompt} {p : CompletionParams} {b : Members}
    (hb : body prompt p = .ok b) : (Json.object b).isFinite = true ↔ p.TellsFinite := by
  obtain ⟨m, rfl, hgiven, -⟩ := body_spec hb
  rw [isFinite_members]
  constructor
  · rintro ⟨htemperature, htopP, hmodel⟩
    refine ⟨htemperature, htopP, fun hneeds m' hm' => ?_⟩
    rw [hgiven hneeds] at hm'
    exact Option.some.inj hm' ▸ hmodel hneeds
  · rintro ⟨htemperature, htopP, hmodel⟩
    exact ⟨htemperature, htopP, fun hneeds => hmodel hneeds m (hgiven hneeds)⟩

end Request

end CompletionWire
