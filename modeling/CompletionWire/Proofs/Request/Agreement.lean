import CompletionWire.Proofs.Json.Agreement
import CompletionWire.Proofs.Request.Content

/-!
# Equal parameters and their requests

Parameters are equal if their fields are, numbers by their size and the caller's objects by their
agreement. Where no object holds a key twice and nothing is NaN, this is an equivalence, and
requests cannot tell equal parameters apart: their bodies agree, or no body is built for want of the
same model.
-/

namespace CompletionWire

open Json

/-! ### Generation parameters -/

namespace GenerationParams

variable {p q r : GenerationParams}

def HasNoNan (p : GenerationParams) : Prop := p.temperature ≠ .nan ∧ p.topP ≠ .nan

theorem hasNoNan_default : HasNoNan {} :=
  ⟨Binary64.ofDecimal_ne_nan false 2 (-1), Binary64.ofDecimal_ne_nan false 95 (-2)⟩

theorem equals_iff :
    p.equals q = true ↔ p.maxNewTokens = q.maxNewTokens ∧
      p.temperature.equals q.temperature = true ∧ p.doSample = q.doSample ∧
      p.topP.equals q.topP = true ∧ p.stopTokens = q.stopTokens := by
  simp only [equals, Bool.and_eq_true, decide_eq_true_iff, and_assoc]

theorem equals_self (h : p.HasNoNan) : p.equals p = true :=
  equals_iff.2 ⟨rfl, Binary64.equals_self h.1, rfl, Binary64.equals_self h.2, rfl⟩

theorem equals_symm (h : p.equals q = true) : q.equals p = true := by
  obtain ⟨hcount, htemperature, hsample, htop, hstop⟩ := equals_iff.1 h
  exact equals_iff.2 ⟨hcount.symm, Binary64.equals_symm htemperature, hsample.symm,
    Binary64.equals_symm htop, hstop.symm⟩

theorem equals_trans (h : p.equals q = true) (h' : q.equals r = true) : p.equals r = true := by
  obtain ⟨hcount, htemperature, hsample, htop, hstop⟩ := equals_iff.1 h
  obtain ⟨hcount', htemperature', hsample', htop', hstop'⟩ := equals_iff.1 h'
  exact equals_iff.2 ⟨hcount.trans hcount', Binary64.equals_trans htemperature htemperature',
    hsample.trans hsample', Binary64.equals_trans htop htop', hstop.trans hstop'⟩

end GenerationParams

/-! ### Parameters -/

namespace CompletionParams

variable {p q r : CompletionParams}

def object (p : CompletionParams) : Json := (p.requestBody?.map .object).getD .null

def equals (p q : CompletionParams) : Bool :=
  p.backend? = q.backend? && p.generation.equals q.generation && p.object.agrees q.object

structure HasNoNan (p : CompletionParams) : Prop where
  generation : p.generation.HasNoNan
  object : p.object.HasNoNan

/-- In the caller's object, no object holds a key twice. -/
def Orderly (p : CompletionParams) : Prop := p.object.Orderly none

theorem equals_iff :
    p.equals q = true ↔ p.backend? = q.backend? ∧ p.generation.equals q.generation = true ∧
      p.object.agrees q.object = true := by
  simp only [equals, Bool.and_eq_true, decide_eq_true_iff, and_assoc]

theorem equals_self (hp : p.Orderly) (hnan : p.HasNoNan) : p.equals p = true :=
  equals_iff.2 ⟨rfl, GenerationParams.equals_self hnan.generation, agrees_self hp hnan.object⟩

theorem equals_symm (hp : p.Orderly) (hq : q.Orderly) (hnan : p.HasNoNan) (hnan' : q.HasNoNan)
    (h : p.equals q = true) : q.equals p = true := by
  obtain ⟨hbackend, hgeneration, hobject⟩ := equals_iff.1 h
  exact equals_iff.2 ⟨hbackend.symm, GenerationParams.equals_symm hgeneration,
    agrees_symm hp hnan.object hq hnan'.object hobject⟩

theorem equals_trans (hp : p.Orderly) (hq : q.Orderly) (hnan : p.HasNoNan) (hnan' : q.HasNoNan)
    (h : p.equals q = true) (h' : q.equals r = true) : p.equals r = true := by
  obtain ⟨hbackend, hgeneration, hobject⟩ := equals_iff.1 h
  obtain ⟨hbackend', hgeneration', hobject'⟩ := equals_iff.1 h'
  exact equals_iff.2 ⟨hbackend.trans hbackend',
    GenerationParams.equals_trans hgeneration hgeneration',
    agrees_trans hp hnan.object hq hnan'.object hobject hobject'⟩

theorem object_of_some {ms : Members} (h : p.requestBody? = some ms) : p.object = .object ms := by
  rw [object, h]
  rfl

/-- The value in the caller's object that names the model, whatever it is. -/
def model? (p : CompletionParams) : Option Json :=
  p.requestBody?.bind (Members.find? (text "model"))

theorem model?_canonical_eq (hp : p.Orderly) (hnan : p.HasNoNan) (h : p.equals q = true) :
    p.model?.map canonical = q.model?.map canonical := by
  obtain ⟨-, -, hobject⟩ := equals_iff.1 h
  have hnone {r : CompletionParams} (hr : r.requestBody? = none) : r.object = .null := by
    rw [object, hr]
    rfl
  cases hms : p.requestBody? with
  | none =>
    cases hns : q.requestBody? with
    | none => rw [model?, model?, hms, hns]
    | some ns =>
      rw [hnone hms, object_of_some hns] at hobject
      simp [agrees, sameNumber, whole?] at hobject
  | some ms =>
    cases hns : q.requestBody? with
    | none =>
      rw [object_of_some hms, hnone hns] at hobject
      simp [agrees, sameNumber, whole?] at hobject
    | some ns =>
      rw [object_of_some hms, object_of_some hns] at hobject
      rw [model?, model?, hms, hns]
      exact find?_canonical_eq (object_of_some hms ▸ hp) (object_of_some hms ▸ hnan.object) hobject
        (text "model")

/-- The values that equal parameters have for the model agree. -/
theorem model_agrees (hp : p.Orderly) (hnan : p.HasNoNan) (h : p.equals q = true) {m n : Json}
    (hm : p.model? = some m) (hn : q.model? = some n) : m.agrees n = true := by
  have hmodels := model?_canonical_eq hp hnan h
  obtain ⟨ms, hms, hfind⟩ := Option.bind_eq_some_iff.1 hm
  have hmem := Members.mem_of_find? hfind
  rw [Orderly, object_of_some hms] at hp
  have hobject := hnan.object
  rw [object_of_some hms] at hobject
  rw [hm, hn, Option.map_some, Option.map_some, Option.some.injEq] at hmodels
  exact (agrees_iff_canonical_eq (hp.member hmem) (hobject.member hmem)).2 hmodels

end CompletionParams

/-! ### Requests -/

namespace Request

theorem agrees_prompt (prompt : Prompt) : prompt.toJson.agrees prompt.toJson = true := by
  cases prompt <;> simp [Prompt.toJson, agrees, itemsAgree]

theorem agrees_stopList (p : GenerationParams) : (stopList p).agrees (stopList p) = true := by
  refine agrees_self (.of_items ?_) (forall_parts_array.2 ⟨by simp, ?_⟩)
  · exact List.forall_mem_map.2 fun s _ => List.forall_mem_singleton.2 trivial
  · exact List.forall_mem_map.2 fun s _ => List.forall_mem_singleton.2 (by simp)

/-- Bodies agree if the parameters and the models do that they are made of. -/
theorem agrees_members {p q : GenerationParams} (h : p.equals q = true) (backend : Backend)
    (prompt : Prompt) {m n : Json} (hmodel : NeedsModel backend → m.agrees n = true) :
    (Json.object (members backend prompt m p)).agrees (.object (members backend prompt n q)) =
      true := by
  obtain ⟨hcount, htemperature, hsample, htop, hstop⟩ := GenerationParams.equals_iff.1 h
  have hprompt := agrees_prompt prompt
  have hcount : (Json.int p.maxNewTokens).agrees (.int q.maxNewTokens) = true := by
    rw [agrees_int, hcount, decide_eq_true rfl]
  have hsample : (Json.bool p.doSample).agrees (.bool q.doSample) = true := by
    rw [agrees_bool, hsample, decide_eq_true rfl]
  have hstop : (stopList p).agrees (stopList q) = true := by
    have hsame : stopList p = stopList q := by rw [stopList, stopList, hstop]
    rw [hsame, agrees_stopList]
  rw [← agrees_float] at htemperature htop
  have hkeys : ((members backend prompt m p).map Prod.fst).Nodup := by
    rw [(orders_members backend prompt m p).1]
    cases backend <;> decide
  cases backend with
  | huggingFace | tgi =>
    have hoptions : [text "max_new_tokens", text "temperature", text "do_sample", text "top_p",
        text "stop_tokens"].Nodup := by decide
    refine agrees_of_forall₂ hkeys (.cons ⟨rfl, hprompt⟩ (.cons ⟨rfl, ?_⟩ .nil))
    exact agrees_of_forall₂ hoptions (.cons ⟨rfl, hcount⟩ (.cons ⟨rfl, htemperature⟩
      (.cons ⟨rfl, hsample⟩ (.cons ⟨rfl, htop⟩ (.cons ⟨rfl, hstop⟩ .nil)))))
  | ollama =>
    have hoptions : [text "num_predict", text "temperature", text "top_p", text "stop"].Nodup := by
      decide
    refine agrees_of_forall₂ hkeys (.cons ⟨rfl, hprompt⟩ (.cons ⟨rfl, hmodel (.inl rfl)⟩
      (.cons ⟨rfl, agrees_bool _ _⟩ (.cons ⟨rfl, ?_⟩ .nil))))
    exact agrees_of_forall₂ hoptions (.cons ⟨rfl, hcount⟩ (.cons ⟨rfl, htemperature⟩
      (.cons ⟨rfl, htop⟩ (.cons ⟨rfl, hstop⟩ .nil))))
  | openAi =>
    exact agrees_of_forall₂ hkeys (.cons ⟨rfl, hprompt⟩ (.cons ⟨rfl, hmodel (.inr rfl)⟩
      (.cons ⟨rfl, hcount⟩ (.cons ⟨rfl, htemperature⟩ (.cons ⟨rfl, htop⟩
      (.cons ⟨rfl, hstop⟩ .nil))))))

/-- Requests cannot tell equal parameters apart. -/
theorem body_of_equals {p q : CompletionParams} (hp : p.Orderly) (hnan : p.HasNoNan)
    (h : p.equals q = true) (prompt : Prompt) :
    (∃ backend, body prompt p = .error (.missingModel backend) ∧
        body prompt q = .error (.missingModel backend)) ∨
      ∃ b c, body prompt p = .ok b ∧ body prompt q = .ok c ∧
        (Json.object b).agrees (.object c) = true := by
  obtain ⟨hbackend, hgeneration, -⟩ := CompletionParams.equals_iff.1 h
  have hsame : q.backend = p.backend := by
    rw [CompletionParams.backend, CompletionParams.backend, hbackend]
  have hlacks : LacksModel p ↔ LacksModel q := by
    have hnull (m? : Option Json) : (m? = none ∨ m? = some .null) ↔
        m?.map canonical = none ∨ m?.map canonical = some .null := by
      cases m? <;> simp [canonical_eq_null_iff]
    have hmodels := CompletionParams.model?_canonical_eq hp hnan h
    rw [lacksModel_iff, lacksModel_iff]
    exact (hnull p.model?).trans (hmodels ▸ (hnull q.model?).symm)
  rcases body_cases prompt p with ⟨hneeds, hp', hbody⟩ | ⟨hnot, m, hm, hbody⟩
  · rcases body_cases prompt q with ⟨-, -, hbody'⟩ | ⟨hnot, -⟩
    · exact .inl ⟨p.backend, hbody, hsame ▸ hbody'⟩
    · exact absurd ⟨hsame ▸ hneeds, hlacks.1 hp'⟩ hnot
  · rcases body_cases prompt q with ⟨hneeds, hq', -⟩ | ⟨-, n, hn, hbody'⟩
    · exact absurd ⟨hsame ▸ hneeds, hlacks.2 hq'⟩ hnot
    · rw [hsame] at hn hbody'
      exact .inr ⟨_, _, hbody, hbody', agrees_members hgeneration _ prompt fun hneeds =>
        CompletionParams.model_agrees hp hnan h (hm hneeds) (hn hneeds)⟩

end Request

end CompletionWire
