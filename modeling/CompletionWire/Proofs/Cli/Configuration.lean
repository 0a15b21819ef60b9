import CompletionWire.Proofs.Cli.Choices
import CompletionWire.Proofs.Cli.Printing
import CompletionWire.Proofs.Validation.Dumps

/-!
# Options and configuration

The same choices can be told by the options of a command line or by an object on the wire. An option
has its value read from a text, a member of the object is checked as it is, and the two name and
order things differently. Yet both lead to the same parameters, and so to the same body or to a
failure of the same kind: of all that can be chosen only the number of tokens can be refused, and
either way it is the same number.
-/

namespace CompletionWire

namespace Cli

namespace Choices

/-! ### Choices on the wire -/

/-- The choices about sampling as members on the wire. -/
def settings (c : Choices) : Members := [
  (text "maxNewTokens", .int c.maxNewTokens.value),
  (text "temperature", .float c.temperature.value),
  (text "topP", .float c.topP.value),
  (text "doSample", .bool c.sample),
  (text "stopTokens", .array (c.stops.map fun t => .string t.written))]

def optionalMember (nulls : Bool) (key : Text) : Option Json → Members
  | some v => [(key, v)]
  | none => if nulls then [(key, .null)] else []

/-- The choices as data on the wire. -/
def configuration (nulls : Bool) (c : Choices) : Json :=
  .object ((text "requestParams", .object c.settings) ::
    (optionalMember nulls (text "adaptor") (c.backend?.map fun b => .string b.tag) ++
      optionalMember nulls (text "requestBody") (c.requestBody?.map fun t => .object t.members)))

def sampling (c : Choices) (n : Nat) : GenerationParams where
  maxNewTokens := n
  temperature := c.temperature.value
  doSample := c.sample
  topP := c.topP.value
  stopTokens := c.stops.map PlainText.written

def params (c : Choices) (n : Nat) : CompletionParams :=
  ⟨c.sampling n, c.backend?, c.requestBody?.map ObjectText.members⟩

/-- Members that hold the choices about sampling, each under one name of its field. -/
structure AreHeld (c : Choices) (ms : Members) : Prop where
  maxNewTokens : ∃ k, GenerationParams.maxNewTokensField.find? ms =
    some (k, .int c.maxNewTokens.value)
  temperature : ∃ k, GenerationParams.temperatureField.find? ms =
    some (k, .float c.temperature.value)
  doSample : ∃ k, GenerationParams.doSampleField.find? ms = some (k, .bool c.sample)
  topP : ∃ k, GenerationParams.topPField.find? ms = some (k, .float c.topP.value)
  stopTokens : ∃ k, GenerationParams.stopTokensField.find? ms =
    some (k, .array ((c.stops.map PlainText.written).map .string))

theorem areHeld_settings (c : Choices) : c.AreHeld c.settings := by
  refine ⟨⟨_, rfl⟩, ⟨_, rfl⟩, ⟨_, rfl⟩, ⟨_, rfl⟩, ?_⟩
  rw [List.map_map]
  exact ⟨_, rfl⟩

theorem exists_areHeld_data (c : Choices) : ∃ ms, c.args.data = .object ms ∧ c.AreHeld ms := by
  refine ⟨_, rfl, ⟨_, rfl⟩, ⟨_, rfl⟩, ?_, ⟨_, rfl⟩, ?_⟩
  · rw [← Bool.not_not c.sample]
    exact ⟨_, rfl⟩
  · rw [List.map_map]
    exact ⟨_, rfl⟩

theorem check_of_areHeld {c : Choices} {ms : Members} (h : c.AreHeld ms) {n : Nat}
    (hn : c.maxNewTokens.value = n) :
    GenerationParams.check (.object ms) = .valid (c.sampling n) := by
  obtain ⟨k, hcount⟩ := h.maxNewTokens
  obtain ⟨k, htemperature⟩ := h.temperature
  obtain ⟨k, hsample⟩ := h.doSample
  obtain ⟨k, htopP⟩ := h.topP
  obtain ⟨k, hstop⟩ := h.stopTokens
  rw [hn] at hcount
  rw [GenerationParams.check, Scalar.model_eq_valid_iff.2 rfl, Checked.andThen,
    GenerationParams.ofMembers, Field.optional_of_find? hcount (Scalar.count_natCast n),
    Field.optional_of_find? htemperature (Scalar.binary64_float _),
    Field.optional_of_find? hsample (Scalar.truth_bool _),
    Field.optional_of_find? htopP (Scalar.binary64_float _),
    Field.optional_of_find? hstop (Scalar.array_strings .tupleType _)]
  rfl

theorem exists_of_check_areHeld {c : Choices} {ms : Members} (h : c.AreHeld ms)
    {p : GenerationParams} (hp : GenerationParams.check (.object ms) = .valid p) :
    ∃ n : Nat, c.maxNewTokens.value = n ∧ p = c.sampling n := by
  obtain ⟨k, hfind⟩ := h.maxNewTokens
  have hcount := GenerationParams.count_of_ofMembers hp
  rw [Field.optional, hfind] at hcount
  have hn := Scalar.eq_of_count (Checked.under_eq_valid_iff.1 hcount)
  exact ⟨p.maxNewTokens, hn, Checked.valid.inj (hp.symm.trans (check_of_areHeld h hn))⟩

theorem check_configuration (nulls : Bool) {c : Choices} {n : Nat} (hn : c.maxNewTokens.value = n) :
    CompletionParams.check (c.configuration nulls) = .valid (c.params n) := by
  have hgeneration := check_of_areHeld c.areHeld_settings hn
  rw [CompletionParams.check, configuration, Scalar.model_eq_valid_iff.2 rfl, Checked.andThen,
    CompletionParams.ofMembers, Field.optional_of_find? (by rfl) hgeneration, params]
  cases nulls <;> rcases c.backend? with _ | (_ | _ | _ | _) <;> cases c.requestBody? <;> rfl

theorem exists_of_check_configuration {nulls : Bool} {c : Choices} {p : CompletionParams}
    (hp : CompletionParams.check (c.configuration nulls) = .valid p) :
    ∃ n : Nat, c.maxNewTokens.value = n ∧ p = c.params n := by
  obtain ⟨ms, hms, hmembers⟩ := Checked.andThen_eq_valid_iff.1 hp
  obtain ⟨make, requestBody?, hmake, -, -⟩ := Checked.seq_eq_valid_iff.1 hmembers
  obtain ⟨make, backend?, hgeneration, -, -⟩ := Checked.seq_eq_valid_iff.1 hmake
  obtain ⟨generation, hgeneration, -⟩ := Checked.map_eq_valid_iff.1 hgeneration
  obtain rfl := Json.object.inj (Scalar.model_eq_valid_iff.1 hms)
  have hsettings : GenerationParams.check (.object c.settings) = .valid generation :=
    Checked.under_eq_valid_iff.1 hgeneration
  obtain ⟨n, hn, -⟩ := exists_of_check_areHeld c.areHeld_settings hsettings
  exact ⟨n, hn, Checked.valid.inj (hp.symm.trans (check_configuration nulls hn))⟩

/-! ### What the options give -/

variable {w : Surroundings} {c : Choices}

theorem readsObject_args (c : Choices) :
    ReadsObject c.args.requestBody? (.ok (c.requestBody?.map ObjectText.members)) := by
  rw [args]
  cases c.requestBody? with
  | none => exact .absent
  | some t => exact .object t.reads

theorem namesBackend_args
    (henvironment : c.backend? = none → w.environment.find? Settings.adaptorVariable = none) :
    NamesBackend (c.args.adaptor?.or (Settings.ofEnvironment w.environment).adaptorTag?)
      (.ok c.backend?) := by
  rw [args]
  cases hbackend : c.backend? with
  | some b => cases b <;> exact .known (by decide)
  | none =>
    rw [Settings.ofEnvironment, henvironment hbackend]
    exact .none

/-- Options and data on the wire are accepted together, and then they give the same parameters. -/
theorem givesParams_args
    (henvironment : c.backend? = none → w.environment.find? Settings.adaptorVariable = none)
    (nulls : Bool) :
    (∃ p, CompletionParams.check (c.configuration nulls) = .valid p ∧
      GivesParams c.args (.ofEnvironment w.environment) (.ok p)) ∨
    ∃ issues data, CompletionParams.check (c.configuration nulls) = .invalid issues ∧
      GivesParams c.args (.ofEnvironment w.environment) (.error (.rejection (.invalid data))) := by
  obtain ⟨ms, hdata, hms⟩ := c.exists_areHeld_data
  have hobject := c.readsObject_args
  cases hcheck : CompletionParams.check (c.configuration nulls) with
  | valid p =>
    obtain ⟨n, hn, rfl⟩ := exists_of_check_configuration hcheck
    have hgeneration := check_of_areHeld hms hn
    rw [← hdata] at hgeneration
    exact .inl ⟨_, rfl, .params hobject hgeneration (namesBackend_args henvironment)⟩
  | invalid issues =>
    cases hgeneration : GenerationParams.check c.args.data with
    | valid p =>
      rw [hdata] at hgeneration
      obtain ⟨n, hn, -⟩ := exists_of_check_areHeld hms hgeneration
      cases hcheck.symm.trans (check_configuration nulls hn)
    | invalid issues' => exact .inr ⟨_, _, rfl, .generation hobject hgeneration⟩

/-- A request that is told by options, whatever their order, is the one that the same choices give
as data on the wire: its body is printed if there is one; it lacks a model if there is none; and it
is refused if the data are. -/
theorem body_of_areTold {flags : List Flag} (hflags : c.AreTold flags)
    (henvironment : c.backend? = none → w.environment.find? Settings.adaptorVariable = none)
    (nulls : Bool) :
    let o := run w (text "body" :: flags.map Flag.argument)
    match CompletionParams.check (c.configuration nulls) with
    | .invalid _ => o.exit = .ok 2 ∧ o.output = []
    | .valid p =>
      match Request.body (.text c.prompt.written) p with
      | .ok body => o.exit = .ok 0 ∧ o.output = printed (.object body)
      | .error f => f = .missingModel p.backend ∧ o.exit = .ok 1 ∧ o.output = [] := by
  intro o
  have hargs := ofArgs_of_areTold hflags
  rcases givesParams_args henvironment nulls with
    ⟨p, hcheck, hparams⟩ | ⟨issues, data, hcheck, hparams⟩
  · rw [hcheck]
    dsimp only
    cases hbody : Request.body (.text c.prompt.written) p with
    | ok body => exact shows_of_yields hargs rfl (.body hparams hbody)
    | error f =>
      have hshows := shows_of_yields hargs rfl (.bodyFailure hparams hbody)
      refine ⟨?_, hshows.1, hshows.2.1⟩
      rcases Request.body_cases (.text c.prompt.written) p with ⟨-, -, h⟩ | ⟨-, m, -, h⟩
      · exact Except.error.inj (hbody.symm.trans h)
      · cases hbody.symm.trans h
  · rw [hcheck]
    have hshows := shows_of_yields hargs rfl (.bodyParams hparams)
    exact ⟨hshows.1, hshows.2.1⟩

/-- Values that look like options, an empty stop text, what is not a number and a key that is given
twice are all told in full. -/
theorem body_of_areTold_like_options :
    let w : Surroundings := ⟨[], [], [], fun _ => .missing, []⟩
    let args := ["body", "--temperature=NaN", "--top-p=-1e-2", "--no-sample", "--stop=",
      "--stop=-v", "--stop=", "--adaptor=ollama", "--prompt=--stop=x",
      "--request-body=\x7b\"model\":null,\"model\":false\x7d", "--max-new-tokens=2"].map text
    let o := run w args
    o.exit = .ok 0 ∧ o.output = printed (.object [
      (text "prompt", .string (text "--stop=x")),
      (text "model", .bool false),
      (text "stream", .bool false),
      (text "options", .object [
        (text "num_predict", .int 2),
        (text "temperature", .float .nan),
        (text "top_p", .float (.ofDecimal true 1 (-2))),
        (text "stop", .array [.string [], .string (text "-v"), .string []])])]) := by
  intro w args o
  let r := text "\x7b\"model\":null,\"model\":false\x7d"
  have hreads : Json.read requestBodyRules r = .ok (.object [(text "model", .bool false)]) := by
    have hkey : Json.Grammar.IsString (text "\"model\"") (text "model") :=
      Json.Grammar.isString_writeString true (text "model")
    have hblanks := Json.Grammar.isBlanks_nil
    have hdocument : Json.Grammar.IsDocument (some 4300) r
        (.object [(text "model", .bool false)]) :=
      .element hblanks (.object (.member hblanks hkey hblanks
        (.element hblanks (.scalar .null) hblanks)
        (.lastMember hblanks hkey hblanks (.element hblanks (.scalar .false) hblanks)))) hblanks
    have hread : (Json.Reader.document requestBodyRules r).toOption.isSome = true := by
      decide +kernel
    have hdeep : Json.Reader.document requestBodyRules r ≠ .error .tooDeep := by
      intro h
      rw [h] at hread
      cases hread
    refine Json.read_eq_ok_iff.2 (Or.resolve_right ?_ hdeep)
    exact Json.Reader.document_of_isDocument hdocument
  let empty : PlainText := ⟨[], by decide⟩
  let c : Choices := {
    prompt := ⟨text "--stop=x", by decide⟩
    maxNewTokens := .ofInt 2 (by decide +kernel)
    temperature := ⟨text "NaN", .nan, by decide⟩
    topP := ⟨text "-1e-2", .ofDecimal true 1 (-2), by decide +kernel⟩
    sample := false
    stops := [empty, ⟨text "-v", by decide⟩, empty]
    requestBody? := some ⟨r, _, hreads⟩
    backend? := some .ollama }
  have htold : c.AreTold (c.flags.drop 4 ++ c.flags.take 4) :=
    ⟨List.perm_append_comm.trans (.of_eq (List.take_append_drop 4 c.flags)), rfl⟩
  have hbody := body_of_areTold (w := w) htold (fun h => nomatch h) false
  rw [check_configuration false (n := 2) rfl] at hbody
  exact hbody

end Choices

end Cli

end CompletionWire
