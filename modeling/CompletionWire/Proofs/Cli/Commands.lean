import CompletionWire.Cli.Run
import CompletionWire.Proofs.Cli.Arguments
import CompletionWire.Proofs.Json.Readings
import CompletionWire.Proofs.Request.Content
import CompletionWire.Proofs.Request.Headers
import CompletionWire.Proofs.Validation.Checked

/-!
# What commands come to

A command goes through its stages one after the other, and each of them may end it with a mishap of
its own. These ends are laid down as relations, stage by stage, and a command line is shown to have
exactly one of them: its exit code tells the family of the mishap, and the output holds the whole
document or nothing. A document can always be written to its end, since none of its numbers is too
long for that.
-/

namespace CompletionWire

namespace Cli

/-! ### Parameters -/

inductive ReadsObject : Option Text → Except Mishap (Option Members) → Prop
  | absent : ReadsObject none (.ok none)
  | null {t : Text} (h : Json.read requestBodyRules t = .ok .null) : ReadsObject (some t) (.ok none)
  | object {t : Text} {ms : Members} (h : Json.read requestBodyRules t = .ok (.object ms)) :
      ReadsObject (some t) (.ok (some ms))
  | notAnObject {t : Text} {v : Json} (h : Json.read requestBodyRules t = .ok v) (hnull : v ≠ .null)
      (hobject : ∀ ms, v ≠ .object ms) : ReadsObject (some t) (.error (.rejection .notAnObject))
  | notJson {t : Text} {fault : Json.Fault Json.Place}
      (h : Json.read requestBodyRules t = .error fault) (hfault : fault ≠ .tooDeep) :
      ReadsObject (some t) (.error (.rejection (.notJson requestBodyRules fault)))
  | tooDeep {t : Text} (h : Json.read requestBodyRules t = .error .tooDeep) :
      ReadsObject (some t) (.error (.abort .tooDeep))

/-- The backend that a setting names, which may be none. -/
inductive NamesBackend : Option Text → Except Mishap (Option Backend) → Prop
  | none : NamesBackend none (.ok none)
  | known {setting : Text} {b : Backend} (h : Backend.ofSetting? setting = some b) :
      NamesBackend (some setting) (.ok (some b))
  | unknown {setting : Text} (h : Backend.ofSetting? setting = none) :
      NamesBackend (some setting) (.error (.rejection (.unknownAdaptor setting)))

inductive NamesEditor : Text → Except Mishap Editor → Prop
  | known {tag : Text} {e : Editor} (h : Editor.ofTag? tag = some e) : NamesEditor tag (.ok e)
  | unknown {tag : Text} (h : Editor.ofTag? tag = none) :
      NamesEditor tag (.error (.rejection (.unknownEditor tag)))

theorem readsObject_iff {t? : Option Text} {r : Except Mishap (Option Members)} :
    ReadsObject t? r ↔ (t?.map objectOf?).getD (.ok none) = r := by
  constructor
  · intro h
    cases h with
    | absent => rfl
    | null h | object h | tooDeep h =>
      rw [Option.map_some, Option.getD_some, objectOf?, h]
    | @notAnObject t v h hnull hobject =>
      rw [Option.map_some, Option.getD_some, objectOf?, h]
      cases v with
      | null => exact absurd rfl hnull
      | object ms => exact absurd rfl (hobject ms)
      | bool | int | float | string | array => rfl
    | @notJson t fault h hfault =>
      rw [Option.map_some, Option.getD_some, objectOf?, h]
      cases fault with
      | tooDeep => exact absurd rfl hfault
      | malformed | tooManyDigits | constant => rfl
  · rintro rfl
    cases t? with
    | none => exact .absent
    | some t =>
      rw [Option.map_some, Option.getD_some, objectOf?]
      cases h : Json.read requestBodyRules t with
      | ok v =>
        cases v with
        | null => exact .null h
        | object ms => exact .object h
        | bool | int | float | string | array => exact .notAnObject h nofun nofun
      | error fault =>
        cases fault with
        | tooDeep => exact .tooDeep h
        | malformed | tooManyDigits | constant => exact .notJson h nofun

theorem namesBackend_iff {adaptor? : Option Text} {s : Settings}
    {r : Except Mishap (Option Backend)} :
    NamesBackend (adaptor?.or s.adaptorTag?) r ↔ backend? adaptor? s = r := by
  rw [backend?]
  generalize adaptor?.or s.adaptorTag? = setting?
  constructor
  · intro h
    cases h with
    | none => rfl
    | known h | unknown h => simp only [h]
  · rintro rfl
    cases setting? with
    | none => exact .none
    | some setting =>
      cases h : Backend.ofSetting? setting with
      | some b => simpa only [h] using NamesBackend.known h
      | none => simpa only [h] using NamesBackend.unknown h

theorem namesEditor_iff {editor? : Option Text} {s : Settings} {r : Except Mishap Editor} :
    NamesEditor (editor?.getD s.editorTag) r ↔ editor editor? s = r := by
  rw [editor]
  constructor
  · intro h
    cases h with
    | known h | unknown h => simp only [h]
  · rintro rfl
    cases h : Editor.ofTag? (editor?.getD s.editorTag) with
    | some e => simpa only [h] using NamesEditor.known h
    | none => simpa only [h] using NamesEditor.unknown h

/-- The parameters that the options of a request give: the object is read first, then the numbers
are checked, then the backend is looked up. -/
inductive GivesParams (a : GenerationArgs) (s : Settings) : Except Mishap CompletionParams → Prop
  | object {m : Mishap} (h : ReadsObject a.requestBody? (.error m)) : GivesParams a s (.error m)
  | generation {ms? : Option Members} {issues : List Issue}
      (hms : ReadsObject a.requestBody? (.ok ms?))
      (h : GenerationParams.check a.data = .invalid issues) :
      GivesParams a s (.error (.rejection (.invalid ⟨GenerationParams.modelName, issues⟩)))
  | backend {ms? : Option Members} {p : GenerationParams} {m : Mishap}
      (hms : ReadsObject a.requestBody? (.ok ms?)) (hp : GenerationParams.check a.data = .valid p)
      (h : NamesBackend (a.adaptor?.or s.adaptorTag?) (.error m)) : GivesParams a s (.error m)
  | params {ms? : Option Members} {p : GenerationParams} {b? : Option Backend}
      (hms : ReadsObject a.requestBody? (.ok ms?)) (hp : GenerationParams.check a.data = .valid p)
      (hb : NamesBackend (a.adaptor?.or s.adaptorTag?) (.ok b?)) :
      GivesParams a s (.ok ⟨p, b?, ms?⟩)

theorem givesParams_iff {a : GenerationArgs} {s : Settings} {r : Except Mishap CompletionParams} :
    GivesParams a s r ↔ a.params s = r := by
  rw [GenerationArgs.params]
  constructor
  · intro h
    cases h with
    | object h => rw [readsObject_iff.1 h]; rfl
    | generation hms h => rw [readsObject_iff.1 hms, h]; rfl
    | backend hms hp h => rw [readsObject_iff.1 hms, hp, namesBackend_iff.1 h]; rfl
    | params hms hp hb => rw [readsObject_iff.1 hms, hp, namesBackend_iff.1 hb]; rfl
  · rintro rfl
    cases hms : (a.requestBody?.map objectOf?).getD (.ok none) with
    | error m => exact .object (readsObject_iff.2 hms)
    | ok ms? =>
      have hms := readsObject_iff.2 hms
      cases hp : GenerationParams.check a.data with
      | invalid issues => exact .generation hms hp
      | valid p =>
        cases hb : backend? a.adaptor? s with
        | error m => exact .backend hms hp (namesBackend_iff.2 hb)
        | ok b? => exact .params hms hp (namesBackend_iff.2 hb)

/-! ### Input -/

def IsFileName (name : Text) : Prop :=
  name ≠ text "-" ∧ unencodable? name = none ∧ name.contains (CodePoint.ofNat 0) = false

/-- The text of the input or of a file, with its line ends made one. -/
inductive ReadsInput (w : Surroundings) : Text → Except Mishap Text → Prop
  | input : ReadsInput w (text "-") (.ok (Utf8.decodeEscaping w.input).unifyLineEnds)
  | unencodable {name : Text} {run : LoneSurrogates} (hname : name ≠ text "-")
      (h : unencodable? name = some run) : ReadsInput w name (.error (.rejection (.notUnicode run)))
  | nul {name : Text} (hname : name ≠ text "-") (hencodable : unencodable? name = none)
      (h : name.contains (CodePoint.ofNat 0) = true) :
      ReadsInput w name (.error (.rejection .nulInName))
  | missing {name : Text} (hname : IsFileName name) (h : w.file name = .missing) :
      ReadsInput w name (.error (.abort (.missingFile name)))
  | directory {name : Text} (hname : IsFileName name) (h : w.file name = .directory) :
      ReadsInput w name (.error (.abort (.isDirectory name)))
  | notUtf8 {name : Text} {bytes : Bytes} {e : Utf8.IllFormed} (hname : IsFileName name)
      (h : w.file name = .contents bytes) (hbytes : Utf8.decode? false bytes = .error e) :
      ReadsInput w name (.error (.rejection (.notUtf8 e)))
  | file {name : Text} {bytes : Bytes} {t : Text} (hname : IsFileName name)
      (h : w.file name = .contents bytes) (hbytes : Utf8.decode? false bytes = .ok t) :
      ReadsInput w name (.ok t.unifyLineEnds)

theorem readsInput_iff {w : Surroundings} {name : Text} {r : Except Mishap Text} :
    ReadsInput w name r ↔ inputText w name = r := by
  constructor
  · intro h
    cases h with
    | input => rfl
    | unencodable hname h => rw [inputText, if_neg hname, fileText, h]
    | nul hname hencodable h =>
      simp only [inputText, if_neg hname, fileText, hencodable, h, if_true]
    | missing hname h | directory hname h =>
      obtain ⟨hname, hencodable, hnul⟩ := hname
      simp only [inputText, if_neg hname, fileText, hencodable, hnul, h, Bool.false_eq_true,
        if_false]
    | notUtf8 hname h hbytes | file hname h hbytes =>
      obtain ⟨hname, hencodable, hnul⟩ := hname
      simp only [inputText, if_neg hname, fileText, hencodable, hnul, h, hbytes,
        Bool.false_eq_true, if_false]
  · rintro rfl
    rw [inputText]
    by_cases hname : name = text "-"
    · rw [if_pos hname, hname]
      exact .input
    rw [if_neg hname, fileText]
    cases hencodable : unencodable? name with
    | some run => exact .unencodable hname hencodable
    | none =>
      cases hnul : name.contains (CodePoint.ofNat 0) with
      | true => exact .nul hname hencodable hnul
      | false =>
        have hfile : IsFileName name := ⟨hname, hencodable, hnul⟩
        cases h : w.file name with
        | missing => exact .missing hfile h
        | directory => exact .directory hfile h
        | contents bytes =>
          cases hbytes : Utf8.decode? false bytes with
          | error e =>
            have hread := ReadsInput.notUtf8 hfile h hbytes
            simpa only [hbytes, Bool.false_eq_true, if_false] using hread
          | ok t =>
            have hread := ReadsInput.file hfile h hbytes
            simpa only [hbytes, Bool.false_eq_true, if_false] using hread

/-! ### Commands -/

/-- What a command yields in its surroundings: a document, or the mishap of the first stage that
does not succeed. -/
inductive Yields (w : Surroundings) (s : Settings) : Command → Except Mishap Json → Prop
  | bodyParams {a : GenerationArgs} {m : Mishap} (h : GivesParams a s (.error m)) :
      Yields w s (.body a) (.error m)
  | bodyFailure {a : GenerationArgs} {p : CompletionParams} {f : Failure}
      (hp : GivesParams a s (.ok p)) (h : Request.body a.prompt p = .error f) :
      Yields w s (.body a) (.error (.failure f))
  | body {a : GenerationArgs} {p : CompletionParams} {b : Members} (hp : GivesParams a s (.ok p))
      (h : Request.body a.prompt p = .ok b) : Yields w s (.body a) (.ok (.object b))
  | headersBackend {a : HeadersArgs} {m : Mishap}
      (h : NamesBackend (a.adaptor?.or s.adaptorTag?) (.error m)) :
      Yields w s (.headers a) (.error m)
  | headersEditor {a : HeadersArgs} {b? : Option Backend} {m : Mishap}
      (hb : NamesBackend (a.adaptor?.or s.adaptorTag?) (.ok b?))
      (h : NamesEditor (a.identity.editor?.getD s.editorTag) (.error m)) :
      Yields w s (.headers a) (.error m)
  | headers {a : HeadersArgs} {b? : Option Backend} {e : Editor} {r : Except Mishap Headers}
      (hb : NamesBackend (a.adaptor?.or s.adaptorTag?) (.ok b?))
      (he : NamesEditor (a.identity.editor?.getD s.editorTag) (.ok e))
      (h : Request.headers b? (a.identity.token?.or s.token?) e w.runtimeVersion = r) :
      Yields w s (.headers a) (r.map headersJson)
  | parseInput {a : ParseArgs} {m : Mishap} (h : ReadsInput w a.input (.error m)) :
      Yields w s (.parse a) (.error m)
  | parseBackend {a : ParseArgs} {t : Text} {m : Mishap} (ht : ReadsInput w a.input (.ok t))
      (h : NamesBackend (a.adaptor?.or s.adaptorTag?) (.error m)) : Yields w s (.parse a) (.error m)
  | parse {a : ParseArgs} {t : Text} {b? : Option Backend} {r : Except Mishap (List Generation)}
      (ht : ReadsInput w a.input (.ok t)) (hb : NamesBackend (a.adaptor?.or s.adaptorTag?) (.ok b?))
      (h : (Response.read b? t).value = r) : Yields w s (.parse a) (r.map generationsJson)
  | completeParams {a : CompleteArgs} {m : Mishap} (h : GivesParams a.generation s (.error m)) :
      Yields w s (.complete a) (.error m)
  | completeEditor {a : CompleteArgs} {p : CompletionParams} {m : Mishap}
      (hp : GivesParams a.generation s (.ok p))
      (h : NamesEditor (a.identity.editor?.getD s.editorTag) (.error m)) :
      Yields w s (.complete a) (.error m)
  | completeModel {a : CompleteArgs} {p : CompletionParams} {e : Editor}
      (hp : GivesParams a.generation s (.ok p))
      (he : NamesEditor (a.identity.editor?.getD s.editorTag) (.ok e)) (h : a.model?.join = none) :
      Yields w s (.complete a) (.error (.abort .modelWithoutText))
  | complete {a : CompleteArgs} {p : CompletionParams} {e : Editor} {model : Text}
      {r : Except Mishap (List Generation)} (hp : GivesParams a.generation s (.ok p))
      (he : NamesEditor (a.identity.editor?.getD s.editorTag) (.ok e))
      (hmodel : a.model?.join = some model)
      (h : (Delivery.run ⟨model, a.generation.prompt, p, a.identity.token?.or s.token?, e,
        w.runtimeVersion⟩ s w.script).result = r) : Yields w s (.complete a) (r.map generationsJson)

variable {w : Surroundings} {s : Settings}

theorem yields_runBody (a : GenerationArgs) : Yields w s (.body a) (runBody a s).result := by
  rw [runBody]
  cases hp : a.params s with
  | error m => exact .bodyParams (givesParams_iff.2 hp)
  | ok p =>
    have hp := givesParams_iff.2 hp
    dsimp only [Request.buildBody, Logged.map, Conduct.ofLogged]
    cases h : Request.body a.prompt p with
    | error f => exact .bodyFailure hp h
    | ok b => exact .body hp h

theorem yields_runHeaders (a : HeadersArgs) :
    Yields w s (.headers a) (runHeaders a s w).result := by
  rw [runHeaders, Conduct.ofResult]
  cases hb : backend? a.adaptor? s with
  | error m => exact .headersBackend (namesBackend_iff.2 hb)
  | ok b? =>
    have hb := namesBackend_iff.2 hb
    cases he : editor a.identity.editor? s with
    | error m => exact .headersEditor hb (namesEditor_iff.2 he)
    | ok e =>
      have he := namesEditor_iff.2 he
      dsimp only [bind, Except.bind]
      cases h : Request.headers b? (a.identity.token?.or s.token?) e w.runtimeVersion with
      | error m => exact .headers hb he h
      | ok hs => exact .headers hb he h

theorem yields_runParse (a : ParseArgs) : Yields w s (.parse a) (runParse a s w).result := by
  rw [runParse, ParseArgs.source]
  cases ht : inputText w a.input with
  | error m => exact .parseInput (readsInput_iff.2 ht)
  | ok t =>
    have ht := readsInput_iff.2 ht
    cases hb : backend? a.adaptor? s with
    | error m => exact .parseBackend ht (namesBackend_iff.2 hb)
    | ok b? => exact .parse ht (namesBackend_iff.2 hb) rfl

theorem yields_runComplete (a : CompleteArgs) :
    Yields w s (.complete a) (runComplete a s w).result := by
  rw [runComplete]
  cases hp : a.generation.params s with
  | error m => exact .completeParams (givesParams_iff.2 hp)
  | ok p =>
    have hp := givesParams_iff.2 hp
    dsimp only
    rw [CompleteArgs.call]
    cases he : editor a.identity.editor? s with
    | error m => exact .completeEditor hp (namesEditor_iff.2 he)
    | ok e =>
      have he := namesEditor_iff.2 he
      cases hmodel : a.model?.join with
      | none => exact .completeModel hp he hmodel
      | some model => exact .complete hp he hmodel rfl

theorem yields_iff {c : Command} {r : Except Mishap Json} :
    Yields w (.ofEnvironment w.environment) c r ↔ (c.run w).result = r := by
  constructor
  · intro h
    cases h with
    | bodyParams h => simp only [Command.run, runBody, givesParams_iff.1 h, Conduct.ofResult]
    | bodyFailure hp h | body hp h =>
      simp only [Command.run, runBody, givesParams_iff.1 hp, Request.buildBody, Logged.map,
        Conduct.ofLogged, h]
    | headersBackend h =>
      simp only [Command.run, runHeaders, Conduct.ofResult, namesBackend_iff.1 h, bind, Except.bind]
    | headersEditor hb h =>
      simp only [Command.run, runHeaders, Conduct.ofResult, namesBackend_iff.1 hb,
        namesEditor_iff.1 h, bind, Except.bind]
    | @headers a b? e r hb he h =>
      simp only [Command.run, runHeaders, Conduct.ofResult, namesBackend_iff.1 hb,
        namesEditor_iff.1 he, bind, Except.bind, h]
      cases r <;> rfl
    | parseInput h =>
      simp only [Command.run, runParse, ParseArgs.source, readsInput_iff.1 h, bind, Except.bind,
        Conduct.ofResult]
    | parseBackend ht h =>
      simp only [Command.run, runParse, ParseArgs.source, readsInput_iff.1 ht,
        namesBackend_iff.1 h, bind, Except.bind, Conduct.ofResult]
    | parse ht hb h =>
      simp only [Command.run, runParse, ParseArgs.source, readsInput_iff.1 ht,
        namesBackend_iff.1 hb, bind, Except.bind, pure, Except.pure, Conduct.ofLogged, Logged.map, h]
    | completeParams h =>
      simp only [Command.run, runComplete, givesParams_iff.1 h, Conduct.ofResult]
    | completeEditor hp h =>
      simp only [Command.run, runComplete, givesParams_iff.1 hp, CompleteArgs.call,
        namesEditor_iff.1 h, bind, Except.bind]
    | completeModel hp he h =>
      simp only [Command.run, runComplete, givesParams_iff.1 hp, CompleteArgs.call,
        namesEditor_iff.1 he, h, bind, Except.bind]
      rfl
    | complete hp he hmodel h =>
      simp only [Command.run, runComplete, givesParams_iff.1 hp, CompleteArgs.call,
        namesEditor_iff.1 he, hmodel, bind, Except.bind, pure, Except.pure, h]
  · rintro rfl
    cases c with
    | body a => exact yields_runBody a
    | headers a => exact yields_runHeaders a
    | parse a => exact yields_runParse a
    | complete a => exact yields_runComplete a

end Cli

/-! ### Documents -/

namespace Request

/-- A body nests one level deeper than the model that it tells, and three levels anyway. -/
theorem fits_members {limit : Nat} {backend : Backend} {prompt : Prompt} {m : Json}
    {p : GenerationParams} {depth : Nat} (hdepth : 2 ≤ depth)
    (hm : NeedsModel backend → m.Fits (some limit) depth)
    (hcount : p.maxNewTokens < 10 ^ limit) :
    (Json.object (members backend prompt m p)).Fits (some limit) (depth + 1) := by
  have hcount (depth : Nat) : (Json.int p.maxNewTokens).Fits (some limit) depth := by
    refine .of_int (fun limit' hlimit => ?_) depth
    rw [← Option.some.inj hlimit]
    exact hcount
  have hstop : (stopList p).Fits (some limit) 1 :=
    .of_items (List.forall_mem_map.2 fun s _ => .of_string s 0)
  have hempty : (Json.array []).Fits (some limit) (0 + 1) := .of_items (List.forall_mem_nil _)
  have hprompt : prompt.toJson.Fits (some limit) depth := by
    cases prompt with
    | text t => exact .of_string t depth
    | nothing => exact hempty.mono (by omega)
  cases backend with
  | huggingFace | tgi =>
    have hkeys : [text "max_new_tokens", text "temperature", text "do_sample", text "top_p",
      text "stop_tokens"].Nodup := by decide
    refine .of_members (show [text "inputs", text "parameters"].Nodup by decide) ?_
    refine List.forall_mem_cons.2 ⟨hprompt, List.forall_mem_singleton.2 (.mono ?_ hdepth)⟩
    refine .of_members hkeys ?_
    simp only [List.forall_mem_cons]
    exact ⟨hcount 1, .of_float _ 1, .of_bool _ 1, .of_float _ 1, hstop, List.forall_mem_nil _⟩
  | ollama =>
    have hkeys : [text "num_predict", text "temperature", text "top_p", text "stop"].Nodup := by
      decide
    have houter : [text "prompt", text "model", text "stream", text "options"].Nodup := by decide
    refine .of_members houter ?_
    refine List.forall_mem_cons.2 ⟨hprompt, List.forall_mem_cons.2 ⟨hm (.inl rfl), ?_⟩⟩
    refine List.forall_mem_cons.2 ⟨.of_bool _ depth, List.forall_mem_singleton.2 (.mono ?_ hdepth)⟩
    refine .of_members hkeys ?_
    simp only [List.forall_mem_cons]
    exact ⟨hcount 1, .of_float _ 1, .of_float _ 1, hstop, List.forall_mem_nil _⟩
  | openAi =>
    have hkeys : [text "prompt", text "model", text "max_tokens", text "temperature", text "top_p",
      text "stop"].Nodup := by decide
    rw [members, openAiBody]
    refine .of_members hkeys ?_
    simp only [List.forall_mem_cons]
    exact ⟨hprompt, hm (.inr rfl), hcount depth, .of_float _ depth, .of_float _ depth,
      hstop.mono (by omega), List.forall_mem_nil _⟩

end Request

theorem Cli.fits_generationsJson {limit? : Option Nat} (gs : List Generation) :
    (generationsJson gs).Fits limit? 2 := by
  refine .of_items (List.forall_mem_map.2 fun g _ => ?_)
  have hkeys : [Generation.textField.wire].Nodup := by decide
  exact .of_members hkeys (List.forall_mem_singleton.2 (.of_string _ 0))

theorem Cli.fits_headersJson {limit? : Option Nat} {hs : Headers}
    (h : (hs.lowered.map Prod.fst).Nodup) : (headersJson hs).Fits limit? 1 := by
  refine .of_members ?_ (List.forall_mem_map.2 fun _ _ => .of_string _ 0)
  rw [List.map_map]
  exact h

theorem Scalar.eq_of_count {n : Int} {k : Nat} (h : count (.int n) = .valid k) : n = k := by
  simp only [count, whole, bind, Except.bind] at h
  split_ifs at h with hneg
  · cases h
  · have hk := Checked.valid.inj h
    omega

theorem GenerationParams.count_of_ofMembers {ms : Members} {p : GenerationParams}
    (h : ofMembers ms = .valid p) :
    maxNewTokensField.optional 60 Scalar.count ms = .valid p.maxNewTokens := by
  obtain ⟨_, _, hfour, -, rfl⟩ := Checked.seq_eq_valid_iff.1 h
  obtain ⟨_, _, hthree, -, rfl⟩ := Checked.seq_eq_valid_iff.1 hfour
  obtain ⟨_, _, htwo, -, rfl⟩ := Checked.seq_eq_valid_iff.1 hthree
  obtain ⟨_, _, hone, -, rfl⟩ := Checked.seq_eq_valid_iff.1 htwo
  obtain ⟨count, hcount, rfl⟩ := Checked.map_eq_valid_iff.1 hone
  exact hcount

namespace Cli

theorem maxNewTokens_lt {a : GenerationArgs} (ha : a.HasCount) {p : GenerationParams}
    (h : GenerationParams.check a.data = .valid p) : p.maxNewTokens < 10 ^ 4300 := by
  have hcount : Scalar.count a.maxNewTokens = .valid p.maxNewTokens :=
    Checked.under_eq_valid_iff.1 (GenerationParams.count_of_ofMembers h)
  rcases ha with hnone | ⟨n, hn, hlt⟩
  · rw [hnone] at hcount
    cases hcount
  · rw [hn] at hcount
    rwa [Scalar.eq_of_count hcount, Int.natAbs_natCast] at hlt

theorem fits_of_readsObject {t? : Option Text} {ms : Members} (h : ReadsObject t? (.ok (some ms))) :
    (Json.object ms).Fits (some 4300) 990 := by
  cases h with
  | object h => exact Json.fits_of_read h

variable {w : Surroundings} {s : Settings}

theorem fits_body {a : GenerationArgs} (ha : a.HasCount) {p : CompletionParams}
    (hp : GivesParams a s (.ok p)) {b : Members} (hb : Request.body a.prompt p = .ok b) :
    (Json.object b).Fits (some 4300) 990 := by
  obtain ⟨m, rfl, hgiven, -⟩ := Request.body_spec hb
  cases hp with
  | @params ms? p b? hms hcheck =>
    refine Request.fits_members (by decide) (fun hneeds => ?_) (maxNewTokens_lt ha hcheck)
    obtain ⟨ms, rfl, hfind⟩ := Option.bind_eq_some_iff.1 (hgiven hneeds)
    exact (fits_of_readsObject hms).member (Members.mem_of_find? hfind)

/-- No document has a number that is too long to be written, two members with one key, or more
levels than may be read. -/
theorem fits_of_yields {c : Command} (hc : c.HasCount) {doc : Json} (h : Yields w s c (.ok doc)) :
    doc.Fits (some 4300) 990 := by
  generalize hr : Except.ok doc = r at h
  cases h with
  | body hp h => exact Except.ok.inj hr ▸ fits_body hc hp h
  | headers hb he h =>
    obtain ⟨hs, rfl, rfl⟩ := exists_of_map_eq_ok hr.symm
    exact (fits_headersJson (Request.nodup_headers h)).mono (by decide)
  | parse ht hb h =>
    obtain ⟨gs, -, rfl⟩ := exists_of_map_eq_ok hr.symm
    exact (fits_generationsJson gs).mono (by decide)
  | complete hp he hmodel h =>
    obtain ⟨gs, -, rfl⟩ := exists_of_map_eq_ok hr.symm
    exact (fits_generationsJson gs).mono (by decide)
  | bodyParams | bodyFailure | headersBackend | headersEditor | parseInput | parseBackend
  | completeParams | completeEditor | completeModel => cases hr

/-! ### Exit codes -/

/-- What is seen of a result: its whole document and nothing else, or nothing but a report. -/
def Outcome.Shows (o : Outcome) : Except Mishap Json → Prop
  | .ok doc => o.exit = .ok 0 ∧ o.output = doc.write .indented ++ text "\n"
  | .error (.failure f) => o.exit = .ok 1 ∧ o.output = [] ∧
      text "Error: " ++ ((f.backend?.map fun b => text "[" ++ b.tag ++ text "] ").getD [] ++
        (f.message ++ text "\n")) <:+ o.errors
  | .error (.rejection r) => o.exit = .ok 2 ∧ o.output = [] ∧
      text "Error: " ++ (rejectionReport r ++ text "\n") <:+ o.errors
  | .error (.abort a) => o.exit = .error a ∧ o.output = []

theorem suffix_errorLine (shown message : Text) :
    text "Error: " ++ (message ++ text "\n") <:+ shown ++ errorLine message := by
  rw [errorLine, List.append_assoc]
  exact List.suffix_append shown _

theorem shows_outcome (verbose : Bool) (c : Conduct) : (c.outcome verbose).Shows c.result := by
  rw [Conduct.outcome]
  match c.result with
  | .ok doc => exact ⟨rfl, rfl⟩
  | .error (.failure f) =>
    refine ⟨rfl, rfl, ?_⟩
    rw [← List.append_assoc _ f.message]
    have hreport : (f.backend?.map fun b => text "[" ++ b.tag ++ text "] ").getD [] ++ f.message =
        f.report := by
      rw [Failure.report]
      cases f.backend? <;> rfl
    exact hreport ▸ suffix_errorLine _ f.report
  | .error (.rejection r) => exact ⟨rfl, rfl, suffix_errorLine _ _⟩
  | .error (.abort a) => exact ⟨rfl, rfl⟩

theorem shows_of_yields {args : List Text} {invocation : Invocation} {c : Command}
    {r : Except Mishap Json} (hargs : Invocation.ofArgs args = .ok invocation)
    (hc : invocation.command? = some c) (h : Yields w (.ofEnvironment w.environment) c r) :
    (run w args).Shows r := by
  have hrun : run w args = (c.run w).outcome invocation.verbose := by
    simp only [run, hargs, hc]
  rw [hrun, ← yields_iff.1 h]
  exact shows_outcome invocation.verbose _

theorem exit_of_shows {o : Outcome} {r : Except Mishap Json} (h : o.Shows r) :
    (o.exit = .ok 0 ↔ ∃ doc, r = .ok doc) ∧ (o.exit = .ok 1 ↔ ∃ f, r = .error (.failure f)) ∧
    (o.exit = .ok 2 ↔ ∃ j, r = .error (.rejection j)) ∧
    ∀ a, o.exit = .error a ↔ r = .error (.abort a) := by
  match r, h with
  | .ok doc, h => simp [h.1]
  | .error (.failure f), h => simp [h.1]
  | .error (.rejection j), h => simp [h.1]
  | .error (.abort a), h => simp [h.1]

/-- A command line with a command yields one result, and shows this result: a document is all of its
output, and one that can be written to its end; a failure is reported at the end of the errors,
behind its backend; without a document there is no output, whether the command failed, refused a
value or gave up. The exit code tells which of these it was. -/
theorem exit_tells_result {args : List Text} {invocation : Invocation} {c : Command}
    (hargs : Invocation.ofArgs args = .ok invocation) (hc : invocation.command? = some c) :
    let o := run w args
    let Result := Yields w (.ofEnvironment w.environment) c
    (∃! r, Result r) ∧ (∀ r, Result r → o.Shows r) ∧
    (∀ doc, Result (.ok doc) → doc.Fits (some 4300) 990) ∧
    (o.exit = .ok 0 ↔ ∃ doc, Result (.ok doc)) ∧
    (o.exit = .ok 1 ↔ ∃ f, Result (.error (.failure f))) ∧
    (o.exit = .ok 2 ↔ ∃ j, Result (.error (.rejection j))) ∧
    (∀ a, o.exit = .error a ↔ Result (.error (.abort a))) := by
  intro o Result
  have ho : o = (c.run w).outcome invocation.verbose := by
    simp only [o, run, hargs, hc]
  have hshows : o.Shows (c.run w).result := ho ▸ shows_outcome invocation.verbose (c.run w)
  refine ⟨⟨_, yields_iff.2 rfl, fun r hr => (yields_iff.1 hr).symm⟩,
    fun r hr => yields_iff.1 hr ▸ hshows, fun doc hdoc => fits_of_yields ?_ hdoc, ?_⟩
  · exact hasCount_of_args hargs hc
  · simp only [Result, yields_iff]
    exact exit_of_shows hshows

/-- A body without the model that its backend needs is reported as that backend's failure. -/
theorem exit_tells_result_missing_model :
    let w : Surroundings := ⟨[], [], [], fun _ => .missing, []⟩
    let args := ["body", "--prompt", "hi", "--adaptor", "ollama"].map text
    let o := run w args
    o.exit = .ok 1 ∧ o.output = [] ∧
      text "Error: [ollama] The ollama adaptor requires request_body with a 'model' field\n" <:+
        o.errors := by
  intro w args o
  let a : GenerationArgs :=
    { adaptor? := some (text "ollama"), prompt? := some (.text (text "hi")) }
  have hargs : Invocation.ofArgs args = .ok { command? := some (.body a) } := by rfl
  have hbackend : NamesBackend (some (text "ollama")) (.ok (some .ollama)) := .known (by decide)
  have hparams : GivesParams a (.ofEnvironment []) (.ok ⟨{}, some .ollama, none⟩) :=
    .params .absent (by rfl) hbackend
  have hyields :
      Yields w (.ofEnvironment []) (.body a) (.error (.failure (.missingModel .ollama))) :=
    .bodyFailure hparams (by rfl)
  obtain ⟨-, hshows, -⟩ := exit_tells_result (w := w) hargs rfl
  exact hshows _ hyields

end Cli

end CompletionWire
