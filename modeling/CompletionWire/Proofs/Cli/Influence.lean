import CompletionWire.Cli.Run

/-!
# What the environment decides

A command looks up few variables, and none of those whose option has been given. Two environments
that agree on the variables that are looked up lead to the same conduct, stage by stage: to the same
backend, editor, token and policy, and with them to the same parameters, request and result. The
timeout is read whenever a client is opened, but it is handed on and nothing else depends on it.
-/

namespace CompletionWire

/-- Two environments say the same under some names. -/
def Environment.AgreeOn (names : List Text) (env env' : Environment) : Prop :=
  ∀ name ∈ names, env.find? name = env'.find? name

theorem Environment.agreeOn_append {names names' : List Text} {env env' : Environment} :
    AgreeOn (names ++ names') env env' ↔ AgreeOn names env env' ∧ AgreeOn names' env env' :=
  List.forall_mem_append

/-! ### Delivery -/

/-- A delivery depends on settings by the policy that they make and on nothing else. -/
theorem Delivery.run_congr {s s' : Settings} (h : Policy.ofSettings s = Policy.ofSettings s')
    (c : Call) (script : Script) : Delivery.run c s script = Delivery.run c s' script := by
  simp only [Delivery.run, Call.prepare, Call.assemble, h]

namespace Cli

open Settings

/-! ### Variables -/

def adaptorVariables : Option Text → List Text
  | some _ => []
  | none => [adaptorVariable]

def editorVariables : Option Text → List Text
  | some _ => []
  | none => [editorVariable]

/-- The variables that tell the token unless an option does: the second one only if the first one
is missing or empty. -/
def tokenVariables (env : Environment) : Option Text → List Text
  | some _ => []
  | none => tokenVariable :: if (value? env tokenVariable).isSome then [] else [hubTokenVariable]

def IdentityArgs.influences (env : Environment) (i : IdentityArgs) : List Text :=
  tokenVariables env i.token? ++ editorVariables i.editor?

def retryVariables : List Text := [attemptsVariable, leastWaitVariable, mostWaitVariable]

def Command.influences (env : Environment) : Command → List Text
  | .body a => adaptorVariables a.adaptor?
  | .parse a => adaptorVariables a.adaptor?
  | .headers a => adaptorVariables a.adaptor? ++ a.identity.influences env
  | .complete a =>
    adaptorVariables a.generation.adaptor? ++ a.identity.influences env ++ retryVariables

def command? (args : List Text) : Option Command :=
  match Invocation.ofArgs args with
  | .ok invocation => invocation.command?
  | .error _ => none

/-- The variables that a command line depends on. -/
def influences (env : Environment) (args : List Text) : List Text :=
  match command? args with
  | some c => c.influences env
  | none => []

theorem adaptorVariables_subset (adaptor? : Option Text) :
    adaptorVariables adaptor? ⊆ variableNames := by
  cases adaptor? <;> simp [adaptorVariables, variableNames]

theorem IdentityArgs.influences_subset (env : Environment) (i : IdentityArgs) :
    i.influences env ⊆ variableNames := by
  have htoken : tokenVariables env i.token? ⊆ variableNames := by
    cases i.token? with
    | some t => exact List.nil_subset _
    | none =>
      rw [tokenVariables]
      split <;> simp [variableNames]
  have heditor : editorVariables i.editor? ⊆ variableNames := by
    cases i.editor? <;> simp [editorVariables, variableNames]
  exact List.append_subset.2 ⟨htoken, heditor⟩

/-- No variables count but those that settings are read from. -/
theorem influences_subset (env : Environment) (args : List Text) :
    influences env args ⊆ variableNames := by
  rw [influences]
  cases command? args with
  | none => exact List.nil_subset _
  | some c =>
    cases c with
    | body a | parse a => exact adaptorVariables_subset a.adaptor?
    | headers a =>
      exact List.append_subset.2 ⟨adaptorVariables_subset _, a.identity.influences_subset env⟩
    | complete a =>
      have hretry : retryVariables ⊆ variableNames := by simp [retryVariables, variableNames]
      have htold := List.append_subset.2
        ⟨adaptorVariables_subset a.generation.adaptor?, a.identity.influences_subset env⟩
      exact List.append_subset.2 ⟨htold, hretry⟩

/-! ### Settings -/

section Agreement

open Environment (AgreeOn)

variable {env env' : Environment}

theorem backend?_congr (adaptor? : Option Text)
    (h : AgreeOn (adaptorVariables adaptor?) env env') :
    backend? adaptor? (.ofEnvironment env) = backend? adaptor? (.ofEnvironment env') := by
  cases adaptor? with
  | some t => rfl
  | none =>
    have hvariable : env.find? adaptorVariable = env'.find? adaptorVariable :=
      h _ (List.mem_singleton_self _)
    simp only [backend?, ofEnvironment, hvariable]

theorem editor_congr (editor? : Option Text)
    (h : AgreeOn (editorVariables editor?) env env') :
    editor editor? (.ofEnvironment env) = editor editor? (.ofEnvironment env') := by
  cases editor? with
  | some t => rfl
  | none =>
    have hvariable : env.find? editorVariable = env'.find? editorVariable :=
      h _ (List.mem_singleton_self _)
    simp only [editor, ofEnvironment, hvariable]

theorem token?_congr (token? : Option Text)
    (h : AgreeOn (tokenVariables env token?) env env') :
    token?.or (Settings.ofEnvironment env).token? =
      token?.or (Settings.ofEnvironment env').token? := by
  cases token? with
  | some t => rfl
  | none =>
    have hfirst : value? env tokenVariable = value? env' tokenVariable := by
      rw [value?, value?, h _ (List.mem_cons_self ..)]
    simp only [Option.none_or, ofEnvironment]
    rw [← hfirst]
    cases htoken : value? env tokenVariable with
    | some t => rfl
    | none =>
      have hsecond : env.find? hubTokenVariable = env'.find? hubTokenVariable :=
        h _ (by simp [tokenVariables, htoken])
      rw [value?, value?, hsecond]

theorem policy_congr (h : AgreeOn retryVariables env env') :
    Policy.ofSettings (.ofEnvironment env) = Policy.ofSettings (.ofEnvironment env') := by
  have hwhole : ∀ name ∈ retryVariables, ∀ n, whole env name n = whole env' name n := by
    intro name hname n
    rw [whole, whole, h name hname]
  have hattempts : (ofEnvironment env).attempts = (ofEnvironment env').attempts :=
    hwhole attemptsVariable (by simp [retryVariables]) 3
  have hleast : (ofEnvironment env).leastWait = (ofEnvironment env').leastWait :=
    hwhole leastWaitVariable (by simp [retryVariables]) 1
  have hmost : (ofEnvironment env).mostWait = (ofEnvironment env').mostWait :=
    hwhole mostWaitVariable (by simp [retryVariables]) 10
  rw [Policy.ofSettings, Policy.ofSettings, hattempts, hleast, hmost]

end Agreement

/-! ### Commands -/

def Conduct.withTimeout (t : Binary64) (c : Conduct) : Conduct :=
  { c with timeouts := c.timeouts.map fun _ => t }

def Outcome.withTimeout (t : Binary64) (o : Outcome) : Outcome :=
  { o with timeouts := o.timeouts.map fun _ => t }

theorem outcome_timeouts (verbose : Bool) (c : Conduct) :
    (c.outcome verbose).timeouts = c.timeouts := by
  obtain ⟨events, requests, waits, timeouts, result⟩ := c
  rcases result with (f | r | a) | document <;> rfl

theorem outcome_withTimeout (verbose : Bool) (t : Binary64) (c : Conduct) :
    (c.withTimeout t).outcome verbose = (c.outcome verbose).withTimeout t := by
  obtain ⟨events, requests, waits, timeouts, result⟩ := c
  rcases result with (f | r | a) | document <;> rfl

section Runs

open Environment (AgreeOn)

variable {w : Surroundings} {env' : Environment}

theorem params_congr {a : GenerationArgs} {s s' : Settings}
    (h : backend? a.adaptor? s = backend? a.adaptor? s') : a.params s = a.params s' := by
  simp only [GenerationArgs.params, h]

theorem call_congr {a : CompleteArgs} {s s' : Settings}
    (heditor : editor a.identity.editor? s = editor a.identity.editor? s')
    (htoken : a.identity.token?.or s.token? = a.identity.token?.or s'.token?)
    (w : Surroundings) (env' : Environment) (params : CompletionParams) :
    a.call s w params = a.call s' { w with environment := env' } params := by
  simp only [CompleteArgs.call, heditor, htoken]

/-- What a command does depends on the variables that it looks up, but for the timeout. -/
theorem Command.run_congr (c : Command)
    (h : AgreeOn (c.influences w.environment) w.environment env') :
    c.run { w with environment := env' } =
      (c.run w).withTimeout (Settings.ofEnvironment env').timeout := by
  cases c with
  | body a =>
    have hparams := params_congr (backend?_congr a.adaptor? h)
    simp only [Command.run, runBody, ← hparams]
    cases a.params (.ofEnvironment w.environment) <;> rfl
  | headers a =>
    rw [Command.influences, IdentityArgs.influences] at h
    simp only [Environment.agreeOn_append] at h
    obtain ⟨hadaptor, htoken, heditor⟩ := h
    simp only [Command.run, runHeaders, ← backend?_congr _ hadaptor, ← token?_congr _ htoken,
      ← editor_congr _ heditor]
    rfl
  | parse a =>
    have hsource : a.source (.ofEnvironment env') { w with environment := env' } =
        a.source (.ofEnvironment w.environment) w := by
      rw [ParseArgs.source, ← backend?_congr a.adaptor? h]
      rfl
    simp only [Command.run, runParse, hsource]
    cases a.source (.ofEnvironment w.environment) w <;> rfl
  | complete a =>
    rw [Command.influences, IdentityArgs.influences] at h
    simp only [Environment.agreeOn_append] at h
    obtain ⟨⟨hadaptor, htoken, heditor⟩, hretry⟩ := h
    have hparams := params_congr (backend?_congr _ hadaptor)
    simp only [Command.run, runComplete, ← hparams]
    cases a.generation.params (.ofEnvironment w.environment) with
    | error m => rfl
    | ok params =>
      have hcall := call_congr (editor_congr _ heditor) (token?_congr _ htoken) w env' params
      simp only [← hcall]
      cases a.call (.ofEnvironment w.environment) w params with
      | error m => rfl
      | ok call =>
        simp only [← Delivery.run_congr (policy_congr hretry)]
        rfl

theorem Command.timeouts_run (c : Command) (w : Surroundings) :
    (c.run w).timeouts = [] ∨
      (∃ a, c = .complete a) ∧
        (c.run w).timeouts = [(Settings.ofEnvironment w.environment).timeout] := by
  cases c with
  | body a =>
    simp only [Command.run, runBody]
    cases a.params (.ofEnvironment w.environment) <;> exact .inl rfl
  | headers a => exact .inl rfl
  | parse a =>
    simp only [Command.run, runParse]
    cases a.source (.ofEnvironment w.environment) w <;> exact .inl rfl
  | complete a =>
    simp only [Command.run, runComplete]
    cases a.generation.params (.ofEnvironment w.environment) with
    | error m => exact .inl rfl
    | ok params =>
      right
      refine ⟨⟨a, rfl⟩, ?_⟩
      dsimp only
      cases a.call (.ofEnvironment w.environment) w params <;> rfl

theorem exists_run_eq_of_command?_eq_none {args : List Text} (h : command? args = none) :
    ∃ o : Outcome, o.timeouts = [] ∧ ∀ w, run w args = o := by
  unfold command? at h
  unfold run
  cases hargs : Invocation.ofArgs args with
  | error e => cases e <;> exact ⟨_, rfl, fun _ => rfl⟩
  | ok invocation =>
    simp only [hargs] at h
    simp only [h]
    exact ⟨_, rfl, fun _ => rfl⟩

theorem exists_run_eq_of_command?_eq_some {args : List Text} {c : Command}
    (h : command? args = some c) :
    ∃ verbose, ∀ w, run w args = (c.run w).outcome verbose := by
  unfold command? at h
  unfold run
  cases hargs : Invocation.ofArgs args with
  | error e => simp only [hargs, reduceCtorEq] at h
  | ok invocation =>
    simp only [hargs] at h
    simp only [h]
    exact ⟨invocation.verbose, fun _ => rfl⟩

theorem Outcome.withTimeout_eq_self {o : Outcome} {t : Binary64} (h : ∀ t' ∈ o.timeouts, t' = t) :
    o.withTimeout t = o := by
  have hmap : o.timeouts.map (fun _ => t) = o.timeouts := by
    rw [List.map_const', List.eq_replicate_of_mem h, List.length_replicate]
  rw [withTimeout, hmap]

/-- A command line depends on the variables that its command looks up: if an environment is changed
under other names, the outcome is the same but for the timeout of the client. It is just the same if
the timeout is left alone or the command sends no request. -/
theorem run_eq_of_agreeOn {args : List Text}
    (h : AgreeOn (influences w.environment args) w.environment env') :
    let o := run w args
    let o' := run { w with environment := env' } args
    o' = o.withTimeout (Settings.ofEnvironment env').timeout ∧
      (w.environment.find? timeoutVariable = env'.find? timeoutVariable ∨
        (∀ a, command? args ≠ some (.complete a)) → o' = o) := by
  intro o o'
  cases hcommand : command? args with
  | none =>
    obtain ⟨o₀, htimeouts, hrun⟩ := exists_run_eq_of_command?_eq_none hcommand
    have ho : o = o₀ := hrun w
    have ho' : o' = o₀ := hrun _
    rw [ho', ho, Outcome.withTimeout, htimeouts, List.map_nil, ← htimeouts]
    exact ⟨rfl, fun _ => rfl⟩
  | some c =>
    obtain ⟨verbose, hrun⟩ := exists_run_eq_of_command?_eq_some hcommand
    have ho : o = (c.run w).outcome verbose := hrun w
    have ho' : o' = (c.run { w with environment := env' }).outcome verbose := hrun _
    have hconduct : c.run { w with environment := env' } =
        (c.run w).withTimeout (Settings.ofEnvironment env').timeout := by
      rw [influences, hcommand] at h
      exact c.run_congr h
    have hsame : o' = o.withTimeout (Settings.ofEnvironment env').timeout := by
      rw [ho', ho, hconduct, outcome_withTimeout]
    refine ⟨hsame, ?_⟩
    intro hother
    rw [hsame]
    apply Outcome.withTimeout_eq_self
    intro t ht
    rw [ho, outcome_timeouts] at ht
    rcases c.timeouts_run w with hnone | ⟨⟨a, rfl⟩, htimeouts⟩
    · rw [hnone] at ht
      cases ht
    · rw [htimeouts, List.mem_singleton] at ht
      rcases hother with htimeout | hquiet
      · rw [ht]
        simp only [ofEnvironment, htimeout]
      · exact absurd rfl (hquiet a)

/-- A token, a backend and an editor that are told leave their variables aside, and another timeout
is the client's alone. -/
theorem run_eq_of_agreeOn_timeout :
    let env : Environment := [
      (tokenVariable, text "secret"),
      (hubTokenVariable, text "spare"),
      (adaptorVariable, text "nothing known"),
      (timeoutVariable, text "2.5")]
    let env' : Environment := [
      (timeoutVariable, text "soon"),
      (editorVariable, text "ed"),
      (tokenVariable, text "secret")]
    let w : Surroundings := ⟨env, [], [], fun _ => .missing, []⟩
    let args :=
      ["complete", "--model=http://h", "--prompt=p", "--adaptor=tgi", "--ide=emacs"].map text
    let o := run w args
    let o' := run { w with environment := env' } args
    o.requests.map SentRequest.authorization? = List.replicate 3 (some (text "Bearer secret")) ∧
      o.timeouts = [.ofDecimal false 25 (-1)] ∧
      o' = { o with timeouts := [standardTimeout] } := by
  intro env env' w args o o'
  have hvariables : influences w.environment args = tokenVariable :: retryVariables := by
    decide +kernel
  have hagree : AgreeOn (influences w.environment args) w.environment env' := by
    rw [hvariables]
    unfold AgreeOn
    decide +kernel
  have hsent : o.requests.map SentRequest.authorization? =
        List.replicate 3 (some (text "Bearer secret")) ∧
      o.timeouts = [.ofDecimal false 25 (-1)] := by decide +kernel
  have htimeout : (Settings.ofEnvironment env').timeout = standardTimeout := by rfl
  have hsame : o' = o.withTimeout (Settings.ofEnvironment env').timeout :=
    (run_eq_of_agreeOn hagree).1
  refine ⟨hsent.1, hsent.2, ?_⟩
  rw [hsame, Outcome.withTimeout, hsent.2, htimeout, List.map_singleton]

end Runs

end Cli

end CompletionWire
