import CompletionWire.Proofs.Cli.HeadersLine
import CompletionWire.Proofs.Cli.Influence
import CompletionWire.Proofs.Text.Folding

/-!
# An option or its variable

The backend, the token and the editor of headers are told by options, or by variables in their
place, and each of the two ways has its own reading of a text. Of a backend the blanks and capitals
do not count either way, and a token is taken as it is. An editor's variable is read without blanks
and capitals too, but its option is not: there a text that is no exact tag is rejected. No option
can have two hyphens for its value, which leave it as if it were not given.
-/

namespace CompletionWire

namespace Cli

open Environment (AgreeOn)

/-! ### Results -/

/-- The results are the same, or there is a rejection either way. -/
inductive Alike {α : Type} : Except Mishap α → Except Mishap α → Prop
  | same (x : Except Mishap α) : Alike x x
  | rejected (r r' : Rejection) : Alike (.error (.rejection r)) (.error (.rejection r'))

theorem Alike.of_eq {α : Type} {x x' : Except Mishap α} (h : x = x') : Alike x x' := h ▸ .same x

theorem Alike.bind {α β : Type} {x x' : Except Mishap α} {k k' : α → Except Mishap β}
    (h : Alike x x') (hk : ∀ a, Alike (k a) (k' a)) : Alike (x >>= k) (x' >>= k') := by
  cases h with
  | same =>
    cases x with
    | error m => exact .same _
    | ok a => exact hk a
  | rejected r r' => exact .rejected r r'

/-- The same exit and the same output, whatever is said of a mishap. -/
def Outcome.Alike (o o' : Outcome) : Prop := o.exit = o'.exit ∧ o.output = o'.output

theorem Alike.outcome {r r' : Except Mishap Json} (h : Alike r r') (verbose : Bool) :
    ((Conduct.ofResult r).outcome verbose).Alike ((Conduct.ofResult r').outcome verbose) := by
  cases h <;> exact ⟨rfl, rfl⟩

/-! ### Variables that are not concerned -/

section Agreement

variable {names : List Text} {name : Text}

theorem agreeOn_erase_insert {others : List Text} (hnames : names ⊆ others) (h : name ∉ others)
    (env : Environment) (value : Text) :
    AgreeOn names (env.erase name) (env.insert name value) := by
  intro other hother
  have hne : other ≠ name := fun heq => h (heq ▸ hnames hother)
  rw [Environment.find?_erase_of_ne hne, Environment.find?_insert_of_ne hne]

theorem adaptorVariables_subset_singleton (adaptor? : Option Text) :
    adaptorVariables adaptor? ⊆ [Settings.adaptorVariable] := by
  cases adaptor? with
  | some t => exact List.nil_subset _
  | none => exact List.Subset.refl _

theorem editorVariables_subset_singleton (editor? : Option Text) :
    editorVariables editor? ⊆ [Settings.editorVariable] := by
  cases editor? with
  | some t => exact List.nil_subset _
  | none => exact List.Subset.refl _

theorem tokenVariables_subset_pair (env : Environment) (token? : Option Text) :
    tokenVariables env token? ⊆ [Settings.tokenVariable, Settings.hubTokenVariable] := by
  cases token? with
  | some t => exact List.nil_subset _
  | none =>
    rw [tokenVariables]
    split <;> simp

end Agreement

/-! ### Values -/

/-- As the value of the option one text stands for what the other one stands for as the value of
the variable. -/
def Source.Matches (value s : Text) : Source → Prop
  | adaptor => Backend.ofSetting? value = Backend.ofSetting? s
  | token => value = s
  | editor => Editor.ofTag? value = Editor.ofTag? s.trim.lower

section Values

variable {source : Source} {a : HeadersArgs} {value s : Text}

theorem backend?_alike (hget : source.get a = none) (hs : s.trim ≠ []) (h : source.Matches value s)
    (env : Environment) :
    Alike
      (backend? (source.set (some value) a).adaptor?
        (.ofEnvironment (env.erase source.variableName)))
      (backend? a.adaptor? (.ofEnvironment (env.insert source.variableName s))) := by
  cases source with
  | adaptor =>
    have htag : (Settings.ofEnvironment (env.insert Settings.adaptorVariable s)).adaptorTag? =
        some s.trim := by
      rw [Settings.ofEnvironment, Environment.find?_insert_self, Option.bind_some,
        Settings.nonEmpty?_of_ne hs]
    have hread : Backend.ofSetting? s.trim = Backend.ofSetting? value :=
      (Backend.ofSetting?_trim s).trans h.symm
    rw [show a.adaptor? = none from hget]
    simp only [backend?, Source.set, Source.variableName, Option.some_or, Option.none_or, htag,
      hread]
    cases Backend.ofSetting? value with
    | some b => exact .same _
    | none => exact .rejected _ _
  | token | editor =>
    exact .of_eq (backend?_congr _
      (agreeOn_erase_insert (adaptorVariables_subset_singleton _) (by decide) env s))

theorem editor_alike (hget : source.get a = none) (hs : s.trim ≠ []) (h : source.Matches value s)
    (env : Environment) :
    Alike
      (editor (source.set (some value) a).identity.editor?
        (.ofEnvironment (env.erase source.variableName)))
      (editor a.identity.editor? (.ofEnvironment (env.insert source.variableName s))) := by
  cases source with
  | editor =>
    have htag : (Settings.ofEnvironment (env.insert Settings.editorVariable s)).editorTag =
        s.trim.lower := by
      rw [Settings.ofEnvironment, Environment.find?_insert_self, Option.bind_some,
        Settings.nonEmpty?_of_ne (Text.lower_ne_nil hs), Option.getD_some]
    have hread : Editor.ofTag? value = Editor.ofTag? s.trim.lower := h
    rw [show a.identity.editor? = none from hget]
    simp only [editor, Source.set, Source.variableName, Option.getD_some, Option.getD_none, htag,
      hread]
    cases Editor.ofTag? s.trim.lower with
    | some e => exact .same _
    | none => exact .rejected _ _
  | adaptor | token =>
    exact .of_eq (editor_congr _
      (agreeOn_erase_insert (editorVariables_subset_singleton _) (by decide) env s))

theorem token?_eq (hget : source.get a = none) (hs : s.trim ≠ []) (h : source.Matches value s)
    (env : Environment) :
    (source.set (some value) a).identity.token?.or
        (Settings.ofEnvironment (env.erase source.variableName)).token? =
      a.identity.token?.or (Settings.ofEnvironment (env.insert source.variableName s)).token? := by
  cases source with
  | token =>
    have hvariable : (Settings.ofEnvironment (env.insert Settings.tokenVariable s)).token? =
        some s := by
      rw [Settings.ofEnvironment, Settings.value?, Environment.find?_insert_self, Option.bind_some,
        Settings.nonEmpty?_of_ne (Text.ne_nil_of_trim hs), Option.some_or]
    rw [show a.identity.token? = none from hget, show value = s from h]
    simp only [Source.set, Source.variableName, Option.some_or, Option.none_or, hvariable]
  | adaptor | editor =>
    exact token?_congr _
      (agreeOn_erase_insert (tokenVariables_subset_pair _ _) (by decide) env s)

theorem runHeaders_alike (hget : source.get a = none) (hs : s.trim ≠ [])
    (h : source.Matches value s) (w : Surroundings) (env env' : Environment) (verbose : Bool) :
    ((runHeaders (source.set (some value) a)
        (.ofEnvironment (w.environment.erase source.variableName))
        { w with environment := env }).outcome verbose).Alike
      ((runHeaders a (.ofEnvironment (w.environment.insert source.variableName s))
        { w with environment := env' }).outcome verbose) := by
  refine Alike.outcome ?_ verbose
  refine (backend?_alike hget hs h w.environment).bind fun backend? => ?_
  refine (editor_alike hget hs h w.environment).bind fun editor => ?_
  rw [token?_eq hget hs h]
  exact .same _

end Values

/-! ### Runs -/

theorem run_ending {args : List Text} {e : Ending} (h : Invocation.ofArgs args = .error e)
    {args' : List Text} (h' : Invocation.ofArgs args' = .error e) (w w' : Surroundings) :
    run w args = run w' args' := by
  cases e <;> simp only [run, h, h']

theorem run_headers {args : List Text} {verbose : Bool} {a : HeadersArgs}
    (h : Invocation.ofArgs args = .ok { verbose, command? := some (.headers a) })
    (w : Surroundings) :
    run w args = (runHeaders a (.ofEnvironment w.environment) w).outcome verbose := by
  simp only [run, h, Command.run]

section Runs

variable {source : Source} (line : OpenLine source) {value s : Text}

theorem text?_ofText (hne : value ≠ []) (hhyphens : value ≠ doubleHyphen) :
    (Argument.ofText value).text? = some value := by
  rw [Argument.ofText, if_neg hhyphens, Argument.text?, Settings.nonEmpty?_of_ne hne]

/-- A line with the option comes to what it comes to without, if the variable has a value that
matches the option's. -/
theorem run_argsWith_alike (hne : value ≠ []) (hhyphens : value ≠ doubleHyphen) (hs : s.trim ≠ [])
    (h : source.Matches value s) (w : Surroundings) :
    (run { w with environment := w.environment.erase source.variableName }
        (line.argsWith value)).Alike
      (run { w with environment := w.environment.insert source.variableName s } line.args) := by
  rcases line.ofArgs_argsWith with ⟨e, hargs, hwith⟩ | ⟨verbose, a, hget, hargs, hwith⟩
  · rw [run_ending (hwith value) hargs]
    exact ⟨rfl, rfl⟩
  · rw [run_headers (hwith value), run_headers hargs, text?_ofText hne hhyphens]
    exact runHeaders_alike hget hs h w _ _ verbose

theorem run_argsWith_hyphens (w : Surroundings) :
    run w (line.argsWith doubleHyphen) = run w line.args := by
  rcases line.ofArgs_argsWith with ⟨e, hargs, hwith⟩ | ⟨verbose, a, hget, hargs, hwith⟩
  · exact run_ending (hwith _) hargs w w
  · rw [run_headers (hwith _), run_headers hargs]
    have hnothing : (Argument.ofText doubleHyphen).text? = none := rfl
    rw [hnothing, Source.set_none_of_get hget]

theorem backend?_cases (adaptor? : Option Text) (s : Settings) :
    (∃ b?, backend? adaptor? s = .ok b?) ∨ ∃ r, backend? adaptor? s = .error (.rejection r) := by
  unfold backend?
  split
  · exact .inl ⟨_, rfl⟩
  · split
    · exact .inl ⟨_, rfl⟩
    · exact .inr ⟨_, rfl⟩

/-- Where an editor's option is no exact tag nothing is made, whatever else is asked for. -/
theorem runHeaders_of_no_tag {a : HeadersArgs} {tag : Text} (ha : a.identity.editor? = some tag)
    (htag : Editor.ofTag? tag = none) (s : Settings) (w : Surroundings) (verbose : Bool) :
    ((runHeaders a s w).outcome verbose).exit = .ok 2 ∧
      ((runHeaders a s w).outcome verbose).output = [] := by
  have heditor : editor a.identity.editor? s = .error (.rejection (.unknownEditor tag)) := by
    simp only [editor, ha, Option.getD_some, htag]
  simp only [runHeaders, heditor]
  rcases backend?_cases a.adaptor? s with ⟨b?, hb⟩ | ⟨r, hr⟩
  · rw [hb]
    exact ⟨rfl, rfl⟩
  · rw [hr]
    exact ⟨rfl, rfl⟩

theorem tag_ne (e : Editor) : e.tag ≠ [] ∧ e.tag ≠ doubleHyphen := by
  cases e <;> decide

/-- A text matches itself unless it is an editor's tag but for blanks and capitals. -/
theorem matches_self (h : ∀ e : Editor, source = .editor → e.tag = s.trim.lower → e.tag = s) :
    source.Matches s s := by
  cases source with
  | adaptor | token => rfl
  | editor =>
    change Editor.ofTag? s = Editor.ofTag? s.trim.lower
    cases hexact : Editor.ofTag? s with
    | some e => rw [Editor.trim_lower_of_ofTag? hexact, hexact]
    | none =>
      cases hfolded : Editor.ofTag? s.trim.lower with
      | none => rfl
      | some e =>
        have htag := h e rfl (Editor.ofTag?_eq_some_iff.1 hfolded)
        cases hexact.symm.trans (Editor.ofTag?_eq_some_iff.2 htag)

/-- For any text that is not blank, a line for headers that does not give an option comes to the
same exit and the same output with the option as with the variable in its place, as long as the text
is not two hyphens and not an editor's tag but for blanks and capitals. Two hyphens leave the option
as if it were not given. A tag but for blanks and capitals comes by the variable to what the tag
comes to by the option, but by the option it comes to a rejection, unless the line is not accepted
anyway. -/
theorem run_option_or_variable (source : Source) (line : OpenLine source) {s : Text}
    (hs : s.trim ≠ []) (w : Surroundings) :
    let without := { w with environment := w.environment.erase source.variableName }
    let byOption (value : Text) := run without (line.argsWith value)
    let byVariable :=
      run { w with environment := w.environment.insert source.variableName s } line.args
    (s ≠ doubleHyphen →
      (∀ e : Editor, source = .editor → e.tag = s.trim.lower → e.tag = s) →
      (byOption s).Alike byVariable) ∧
    (s = doubleHyphen → byOption s = run without line.args) ∧
    (∀ e : Editor, source = .editor → e.tag = s.trim.lower → e.tag ≠ s →
      (byOption e.tag).Alike byVariable ∧
      ((∃ invocation, Invocation.ofArgs line.args = .ok invocation) →
        (byOption s).exit = .ok 2 ∧ (byOption s).output = [])) ∧
    ((∃ e, Invocation.ofArgs line.args = .error e) → byOption s = byVariable) := by
  intro without byOption byVariable
  have hne := Text.ne_nil_of_trim hs
  refine ⟨fun hhyphens htag => ?_, ?_, ?_, ?_⟩
  · exact run_argsWith_alike line hne hhyphens hs (matches_self htag) w
  · rintro rfl
    exact run_argsWith_hyphens line without
  · rintro e rfl htag hother
    have hmatches : Source.editor.Matches e.tag s := congrArg Editor.ofTag? htag
    refine ⟨run_argsWith_alike line (tag_ne e).1 (tag_ne e).2 hs hmatches w, ?_⟩
    rintro ⟨invocation, hinvocation⟩
    have hhyphens : s ≠ doubleHyphen := fun heq => (tag_ne e).2 (htag.trans (by rw [heq]; decide))
    rcases line.ofArgs_argsWith with ⟨ending, hargs, -⟩ | ⟨verbose, a, -, -, hwith⟩
    · cases hargs.symm.trans hinvocation
    · rw [show byOption s = _ from run_headers (hwith s) without, text?_ofText hne hhyphens]
      exact runHeaders_of_no_tag rfl (Editor.ofTag?_eq_none_of_folded htag hother) _ _ verbose
  · rintro ⟨ending, hending⟩
    rcases line.ofArgs_argsWith with ⟨e, hargs, hwith⟩ | ⟨verbose, a, -, hargs, -⟩
    · exact run_ending (hwith s) hargs _ _
    · cases hargs.symm.trans hending

/-- Behind a flag and another option, a backend with a capital and a line end is read either way,
and an editor with a capital and a blank by its variable only. -/
theorem run_option_or_variable_each :
    let w : Surroundings := ⟨[], text "3.11.2", [], fun _ => .missing, []⟩
    let line := [text "-v", text "headers", text "--api-token", text "tok"]
    let given (variableName value : Text) :=
      run { w with environment := [(variableName, value)] } line
    let byOption (argument : Text) := run w (line ++ [argument])
    (byOption (text "--adaptor=Tgi\n")).Alike (given Settings.adaptorVariable (text "Tgi\n")) ∧
      (byOption (text "--ide=neovim")).Alike (given Settings.editorVariable (text " NeoVim")) ∧
      (byOption (text "--ide= NeoVim")).exit = .ok 2 ∧
      byOption (text "--ide=--") = run w line := by
  intro w line given byOption
  let front := [text "-v"]
  let before := [text "--api-token", text "tok"]
  let lineFor (source : Source) (homits : headersGrammar.Omits source.option before) :
      OpenLine source :=
    ⟨front, before, [], by decide, by decide, by decide, by decide, homits⟩
  have hcapital := run_option_or_variable .adaptor (lineFor _ (by decide)) (s := text "Tgi\n")
    (by decide) w
  have hblank := run_option_or_variable .editor (lineFor _ (by decide)) (s := text " NeoVim")
    (by decide) w
  have hhyphens := run_option_or_variable .editor (lineFor _ (by decide)) (s := doubleHyphen)
    (by decide) w
  obtain ⟨htag, hrejected⟩ := hblank.2.2.1 .neovim rfl (by decide) (by decide)
  exact ⟨hcapital.1 (by decide) nofun, htag, (hrejected ⟨_, rfl⟩).1, hhyphens.2.1 rfl⟩

/-- An editor's name with capitals is read as the value of the variable and rejected as that of the
option. -/
theorem run_option_rejects_capitals :
    let w : Surroundings := ⟨[], text "3.11.2", [], fun _ => .missing, []⟩
    let given : Surroundings := { w with environment := [(Settings.editorVariable, text "NeoVim")] }
    let byOption := run w [text "headers", text "--ide=NeoVim"]
    let byVariable := run given [text "headers"]
    let agent := text "llm-adaptors/0.1.0; python/3.11.2; ide/neovim"
    byOption.exit = .ok 2 ∧ byOption.output = [] ∧ byVariable.exit = .ok 0 ∧
      byVariable.output =
        (headersJson [(text "User-Agent", agent)]).write .indented ++ text "\n" := by
  intro w given byOption byVariable agent
  exact ⟨rfl, rfl, rfl, rfl⟩

end Runs

end Cli

end CompletionWire
