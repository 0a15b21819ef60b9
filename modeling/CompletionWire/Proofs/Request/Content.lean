import CompletionWire.Request.Body
import Mathlib.Data.List.Monad

/-!
# What a body says

Each backend has its own names and places for what a call asks for. A layout tells them, and looking
up the places of a layout in a body gives back all that the call said, so that a body of one backend
is made by one content only.
-/

namespace CompletionWire

/-! ### Looking up -/

namespace Json

/-- The value at the end of a path of keys. -/
def at? : List Text → Json → Option Json
  | [], v => some v
  | key :: path, .object ms => (Members.find? key ms).bind (at? path)
  | _ :: _, _ => none

def count? : Json → Option Nat
  | .int (.ofNat n) => some n
  | _ => none

def number? : Json → Option Binary64
  | .float x => some x
  | _ => none

def truth? : Json → Option Bool
  | .bool b => some b
  | _ => none

def text? : Json → Option Text
  | .string s => some s
  | _ => none

def textList? : Json → Option (List Text)
  | .array xs => xs.mapM text?
  | _ => none

theorem textList?_strings (ts : List Text) : (array (ts.map .string)).textList? = some ts := by
  induction ts with
  | nil => rfl
  | cons t ts ih =>
    rw [textList?] at ih ⊢
    rw [List.map_cons, List.mapM_cons, ih]
    rfl

end Json

namespace Prompt

def ofJson? : Json → Option Prompt
  | .string t => some (.text t)
  | .array [] => some .nothing
  | _ => none

theorem ofJson?_toJson (prompt : Prompt) : ofJson? prompt.toJson = some prompt := by
  cases prompt <;> rfl

end Prompt

namespace Request

/-! ### Layouts -/

/-- The keys of a backend's bodies in their order, and which of them stands for what. The options
may stand in an object of their own. -/
structure Layout where
  keys : List Text
  group? : Option (Text × List Text)
  prompt : Text
  maxNewTokens : Text
  temperature : Text
  topP : Text
  stopTokens : Text
  doSample? : Option Text
  model? : Option Text

namespace Layout

def of : Backend → Layout
  | .huggingFace | .tgi => {
      keys := [text "inputs", text "parameters"]
      group? := some (text "parameters", [text "max_new_tokens", text "temperature",
        text "do_sample", text "top_p", text "stop_tokens"])
      prompt := text "inputs"
      maxNewTokens := text "max_new_tokens"
      temperature := text "temperature"
      topP := text "top_p"
      stopTokens := text "stop_tokens"
      doSample? := some (text "do_sample")
      model? := none }
  | .ollama => {
      keys := [text "prompt", text "model", text "stream", text "options"]
      group? := some (text "options", [text "num_predict", text "temperature", text "top_p",
        text "stop"])
      prompt := text "prompt"
      maxNewTokens := text "num_predict"
      temperature := text "temperature"
      topP := text "top_p"
      stopTokens := text "stop"
      doSample? := none
      model? := some (text "model") }
  | .openAi => {
      keys := [text "prompt", text "model", text "max_tokens", text "temperature", text "top_p",
        text "stop"]
      group? := none
      prompt := text "prompt"
      maxNewTokens := text "max_tokens"
      temperature := text "temperature"
      topP := text "top_p"
      stopTokens := text "stop"
      doSample? := none
      model? := some (text "model") }

def path (l : Layout) (key : Text) : List Text :=
  match l.group? with
  | some (group, _) => [group, key]
  | none => [key]

/-- The keys of a body, and those of the object with its options, are those of the layout. -/
def Orders (l : Layout) (body : Members) : Prop :=
  body.map Prod.fst = l.keys ∧ ∀ group keys, l.group? = some (group, keys) →
    ∃ options, body.find? group = some (.object options) ∧ options.map Prod.fst = keys

end Layout

/-! ### Contents -/

/-- What a call asks its backend for. -/
structure Content where
  prompt : Prompt
  maxNewTokens : Nat
  temperature : Binary64
  topP : Binary64
  stopTokens : List Text
  doSample? : Option Bool
  model? : Option Json

namespace Content

def of (backend : Backend) (prompt : Prompt) (model? : Option Json) (p : GenerationParams) :
    Content where
  prompt := prompt
  maxNewTokens := p.maxNewTokens
  temperature := p.temperature
  topP := p.topP
  stopTokens := p.stopTokens
  doSample? := (Layout.of backend).doSample?.map fun _ => p.doSample
  model? := (Layout.of backend).model?.bind fun _ => model?

def ofCall (prompt : Prompt) (p : CompletionParams) : Content :=
  of p.backend prompt (p.requestBody?.bind (Members.find? (text "model"))) p.generation

/-- The content that stands at the places of a layout. -/
def ofJson? (l : Layout) (v : Json) : Option Content := do
  let prompt ← (v.at? [l.prompt]).bind Prompt.ofJson?
  let maxNewTokens ← (v.at? (l.path l.maxNewTokens)).bind Json.count?
  let temperature ← (v.at? (l.path l.temperature)).bind Json.number?
  let topP ← (v.at? (l.path l.topP)).bind Json.number?
  let stopTokens ← (v.at? (l.path l.stopTokens)).bind Json.textList?
  let doSample? ← l.doSample?.mapM fun key => (v.at? (l.path key)).bind Json.truth?
  let model? ← l.model?.mapM fun key => v.at? [key]
  return { prompt, maxNewTokens, temperature, topP, stopTokens, doSample?, model? }

end Content

/-! ### Models -/

def NeedsModel (backend : Backend) : Prop := backend = .ollama ∨ backend = .openAi

/-- The caller's object is not there, or names no model, or names null. -/
def LacksModel (p : CompletionParams) : Prop :=
  p.requestBody? = none ∨ ∃ members, p.requestBody? = some members ∧
    (members.find? (text "model") = none ∨ members.find? (text "model") = some .null)

theorem lacksModel_iff {p : CompletionParams} :
    LacksModel p ↔ p.requestBody?.bind (Members.find? (text "model")) = none ∨
      p.requestBody?.bind (Members.find? (text "model")) = some .null := by
  cases h : p.requestBody? with
  | none => simp [LacksModel, h]
  | some members => simp [LacksModel, h]

theorem model_cases (backend : Backend) (p : CompletionParams) :
    (LacksModel p ∧ model backend p = .error (.missingModel backend)) ∨
      ∃ m, ¬LacksModel p ∧ p.requestBody?.bind (Members.find? (text "model")) = some m ∧
        model backend p = .ok m := by
  rw [lacksModel_iff]
  cases h : p.requestBody?.bind (Members.find? (text "model")) with
  | none => exact .inl ⟨.inl rfl, by rw [model, h]⟩
  | some m =>
    cases m with
    | null => exact .inl ⟨.inr rfl, by rw [model, h]⟩
    | bool | int | float | string | array | object =>
      refine .inr ⟨_, ?_, rfl, by rw [model, h]⟩
      simp

/-! ### Bodies -/

/-- The members of a body, `m` being the model for a backend that needs one. -/
def members (backend : Backend) (prompt : Prompt) (m : Json) (p : GenerationParams) : Members :=
  match backend with
  | .huggingFace | .tgi => textGenerationBody prompt p
  | .ollama => ollamaBody prompt m p
  | .openAi => openAiBody prompt m p

theorem body_of_model {p : CompletionParams} (prompt : Prompt) (h : NeedsModel p.backend) :
    body prompt p =
      (model p.backend p).map fun m => members p.backend prompt m p.generation := by
  unfold body
  rcases h with h | h <;> rw [h] <;> rfl

theorem members_of_not_needsModel {backend : Backend} (h : ¬NeedsModel backend) (prompt : Prompt)
    (m : Json) (p : GenerationParams) :
    members backend prompt m p = textGenerationBody prompt p := by
  cases backend with
  | huggingFace | tgi => rfl
  | ollama => exact absurd (.inl rfl) h
  | openAi => exact absurd (.inr rfl) h

theorem body_of_not_needsModel {p : CompletionParams} (prompt : Prompt)
    (h : ¬NeedsModel p.backend) :
    body prompt p = .ok (textGenerationBody prompt p.generation) := by
  unfold body
  cases hp : p.backend with
  | huggingFace | tgi => rfl
  | ollama => exact absurd (.inl hp) h
  | openAi => exact absurd (.inr hp) h

/-- A body is built unless the backend needs a model and the call lacks one. -/
theorem body_cases (prompt : Prompt) (p : CompletionParams) :
    (NeedsModel p.backend ∧ LacksModel p ∧ body prompt p = .error (.missingModel p.backend)) ∨
      ¬(NeedsModel p.backend ∧ LacksModel p) ∧ ∃ m,
        (NeedsModel p.backend → p.requestBody?.bind (Members.find? (text "model")) = some m) ∧
        body prompt p = .ok (members p.backend prompt m p.generation) := by
  by_cases hneeds : NeedsModel p.backend
  · rw [body_of_model prompt hneeds]
    rcases model_cases p.backend p with ⟨hlacks, hmodel⟩ | ⟨m, hlacks, hgiven, hmodel⟩
    · exact .inl ⟨hneeds, hlacks, by rw [hmodel]; rfl⟩
    · exact .inr ⟨fun h => hlacks h.2, m, fun _ => hgiven, by rw [hmodel]; rfl⟩
  · rw [body_of_not_needsModel prompt hneeds, ← members_of_not_needsModel hneeds prompt .null]
    exact .inr ⟨fun h => hneeds h.1, .null, fun h => absurd h hneeds, rfl⟩

theorem orders_members (backend : Backend) (prompt : Prompt) (m : Json) (p : GenerationParams) :
    (Layout.of backend).Orders (members backend prompt m p) := by
  cases backend with
  | huggingFace | tgi =>
    refine ⟨rfl, fun group keys h => ?_⟩
    cases h
    exact ⟨_, by rfl, rfl⟩
  | ollama =>
    refine ⟨rfl, fun group keys h => ?_⟩
    cases h
    exact ⟨_, by rfl, rfl⟩
  | openAi => exact ⟨rfl, fun group keys h => nomatch h⟩

/-- Everything that the backend is told is found in the body. -/
theorem ofJson?_members (backend : Backend) (prompt : Prompt) (m : Json) (p : GenerationParams) :
    Content.ofJson? (Layout.of backend) (.object (members backend prompt m p)) =
      some (Content.of backend prompt (some m) p) := by
  let l := Layout.of backend
  let v := Json.object (members backend prompt m p)
  have hprompt : (v.at? [l.prompt]).bind Prompt.ofJson? = some prompt := by
    cases backend <;> exact Prompt.ofJson?_toJson prompt
  have hcount : (v.at? (l.path l.maxNewTokens)).bind Json.count? = some p.maxNewTokens := by
    cases backend <;> rfl
  have htemperature : (v.at? (l.path l.temperature)).bind Json.number? = some p.temperature := by
    cases backend <;> rfl
  have htopP : (v.at? (l.path l.topP)).bind Json.number? = some p.topP := by
    cases backend <;> rfl
  have hstop : (v.at? (l.path l.stopTokens)).bind Json.textList? = some p.stopTokens := by
    cases backend <;> exact Json.textList?_strings p.stopTokens
  have hsample : l.doSample?.mapM (fun key => (v.at? (l.path key)).bind Json.truth?) =
      some (l.doSample?.map fun _ => p.doSample) := by
    cases backend <;> rfl
  have hmodel : l.model?.mapM (fun key => v.at? [key]) = some (l.model?.bind fun _ => some m) := by
    cases backend <;> rfl
  simp only [Content.ofJson?, v, l] at hprompt hcount htemperature htopP hstop hsample hmodel ⊢
  rw [hprompt, hcount, htemperature, htopP, hstop, hsample, hmodel]
  rfl

/-- A body is made by what the backend is told and nothing else. -/
theorem members_congr {backend : Backend} {prompt prompt' : Prompt} {m m' : Json}
    {p p' : GenerationParams}
    (h : Content.of backend prompt (some m) p = Content.of backend prompt' (some m') p') :
    members backend prompt m p = members backend prompt' m' p' := by
  simp only [Content.of, Content.mk.injEq] at h
  obtain ⟨rfl, hcount, htemperature, htopP, hstop, hsample, hmodel⟩ := h
  cases backend with
  | huggingFace | tgi =>
    have hswitch : p.doSample = p'.doSample := Option.some.inj hsample
    simp only [members, textGenerationBody, stopList, hcount, htemperature, htopP, hstop, hswitch]
  | ollama =>
    have hsame : m = m' := Option.some.inj hmodel
    simp only [members, ollamaBody, stopList, hcount, htemperature, htopP, hstop, hsame]
  | openAi =>
    have hsame : m = m' := Option.some.inj hmodel
    simp only [members, openAiBody, stopList, hcount, htemperature, htopP, hstop, hsame]

theorem body_spec {prompt : Prompt} {p : CompletionParams} {b : Members}
    (h : body prompt p = .ok b) :
    ∃ m, b = members p.backend prompt m p.generation ∧
      (NeedsModel p.backend → p.requestBody?.bind (Members.find? (text "model")) = some m) ∧
      Content.ofCall prompt p = Content.of p.backend prompt (some m) p.generation := by
  rcases body_cases prompt p with ⟨-, -, hbody⟩ | ⟨-, m, hmodel, hbody⟩
  · cases hbody.symm.trans h
  · refine ⟨m, (Except.ok.inj (hbody.symm.trans h)).symm, hmodel, ?_⟩
    rw [Content.ofCall]
    cases hp : p.backend with
    | huggingFace | tgi => rfl
    | ollama => rw [hmodel (.inl hp)]
    | openAi => rw [hmodel (.inr hp)]

theorem find?_model_members {backend : Backend} (h : NeedsModel backend) (prompt : Prompt)
    (m : Json) (p : GenerationParams) :
    (members backend prompt m p).find? (text "model") = some m := by
  rcases h with rfl | rfl <;> rfl

theorem ofJson?_body {prompt : Prompt} {p : CompletionParams} {b : Members}
    (h : body prompt p = .ok b) :
    Content.ofJson? (Layout.of p.backend) (.object b) = some (Content.ofCall prompt p) := by
  obtain ⟨m, rfl, -, hcontent⟩ := body_spec h
  rw [ofJson?_members, hcontent]

/-- Two calls to one backend have one body exactly if they say the same to it. -/
theorem body_eq_iff {prompt prompt' : Prompt} {p p' : CompletionParams} {b b' : Members}
    (hbackend : p.backend = p'.backend) (h : body prompt p = .ok b)
    (h' : body prompt' p' = .ok b') :
    b = b' ↔ Content.ofCall prompt p = Content.ofCall prompt' p' := by
  constructor
  · rintro rfl
    have hsaid := ofJson?_body h
    rw [hbackend, ofJson?_body h'] at hsaid
    exact (Option.some.inj hsaid).symm
  · intro hcontent
    obtain ⟨m, rfl, -, hsaid⟩ := body_spec h
    obtain ⟨m', rfl, -, hsaid'⟩ := body_spec h'
    rw [hsaid, hsaid', hbackend] at hcontent
    rw [hbackend]
    exact members_congr hcontent

end Request

end CompletionWire
