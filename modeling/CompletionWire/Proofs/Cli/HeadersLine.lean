import CompletionWire.Cli.Run
import CompletionWire.Proofs.Cli.Insertion

/-!
# Lines that ask for headers

The program tells all arguments of a line apart before it takes any, and hands those behind the name
of the command on as they are. An option of headers that is added there means nothing to the
program, so a line with the option comes to what it comes to without, but for the one part of the
arguments that the option is about.
-/

namespace CompletionWire

namespace Cli

open Grammar (Taken Token)

/-! ### Sources -/

/-- What headers are made from: an option tells it, or else a variable. -/
inductive Source
  | adaptor
  | token
  | editor

namespace Source

def option : Source → Text
  | adaptor => text "--adaptor"
  | token => text "--api-token"
  | editor => text "--ide"

def variableName : Source → Text
  | adaptor => Settings.adaptorVariable
  | token => Settings.tokenVariable
  | editor => Settings.editorVariable

def get : Source → HeadersArgs → Option Text
  | adaptor, a => a.adaptor?
  | token, a => a.identity.token?
  | editor, a => a.identity.editor?

def set (v? : Option Text) : Source → HeadersArgs → HeadersArgs
  | adaptor, a => { a with adaptor? := v? }
  | token, a => { a with identity := { a.identity with token? := v? } }
  | editor, a => { a with identity := { a.identity with editor? := v? } }

variable (source : Source)

theorem get_set (v? : Option Text) (a : HeadersArgs) : source.get (source.set v? a) = v? := by
  cases source <;> rfl

variable {source} in
theorem set_none_of_get {a : HeadersArgs} (h : source.get a = none) : source.set none a = a := by
  cases source <;> (simp only [get] at h; simp only [set, ← h])

theorem isLongName_option : IsLongName source.option := by
  cases source <;> exact ⟨by decide, by decide, by decide⟩

/-! ### Options of the command -/

theorem namesApart_headersGrammar : headersGrammar.NamesApart := by
  unfold Grammar.NamesApart
  decide

theorem exists_find?_option :
    ∃ opt, headersGrammar.find? source.option = some opt ∧
      opt.action = .value fun a s => .ok (source.set a.text? s) := by
  cases source <;> exact ⟨_, rfl, rfl⟩

theorem commutesBut_set (v? : Option Text) :
    headersGrammar.CommutesBut source.option (source.set v?) where
  operand := rfl
  missing _ := rfl
  others := by
    simp only [headersGrammar, identityOptions, List.map_cons, List.map_nil, List.forall_mem_cons]
    refine ⟨fun _ => trivial, ?_, ?_, ?_, List.forall_mem_nil _⟩
    all_goals
      intro h
      cases source <;> first | exact fun _ _ => rfl | exact absurd (List.mem_singleton_self _) h
  named := by
    simp only [headersGrammar, identityOptions, List.map_cons, List.map_nil, List.forall_mem_cons]
    refine ⟨fun h => ?_, fun _ => rfl, fun _ => rfl, fun _ => rfl, List.forall_mem_nil _⟩
    cases source <;> exact absurd h (by decide)

/-- An option of headers sets its part of what the other arguments come to. -/
theorem parse_assignment (value : Text) {before after : List Text}
    (hhyphens : doubleHyphen ∉ before) (hlast : headersGrammar.EndsComplete before)
    (hafter : headersGrammar.Omits source.option after) :
    headersGrammar.parse {} (before ++ assignment source.option (some value) :: after) =
      (headersGrammar.parse {} (before ++ after)).map fun (a, leftOver) =>
        (source.set (Argument.ofText value).text? a, leftOver) := by
  obtain ⟨opt, hfind, haction⟩ := source.exists_find?_option
  have hname := source.isLongName_option
  have htoken := Grammar.token_assignment namesApart_headersGrammar hname hfind (some value)
  refine Grammar.parse_insert (source.commutesBut_set _) htoken
    (hname.assignment_ne_doubleHyphen _) (fun h => nomatch h.1) (fun done => ?_) hhyphens hlast
    hafter {}
  simp only [Grammar.optionEffect, haction]
  rfl

variable {source} in
theorem get_eq_none_of_parse {ts leftOver : List Text} {a : HeadersArgs}
    (hts : headersGrammar.Omits source.option ts)
    (h : headersGrammar.parse {} ts = .ok (a, leftOver)) : source.get a = none := by
  have hnone : source.set none {} = {} := set_none_of_get (by cases source <;> rfl)
  have hparse := Grammar.parse_map (source.commutesBut_set none) hts hnone
  rw [h] at hparse
  have hsame : a = source.set none a := congrArg Prod.fst (Except.ok.inj hparse)
  rw [hsame, get_set]

/-! ### Options and the program -/

theorem lacks_option : grammar.Lacks source.option := by
  cases source <;> (unfold Grammar.Lacks; decide)

/-- The program tells arguments apart with an option of headers among them as without it. -/
theorem bind_tokens_assignment (value : Text) {before : List Text}
    (hhyphens : doubleHyphen ∉ before) (after : List Text) {α : Type} (x : Except Ending α) :
    ((grammar.tokens (before ++ assignment source.option (some value) :: after)).bind fun _ => x) =
      (grammar.tokens (before ++ after)).bind fun _ => x := by
  have hname := source.isLongName_option
  obtain ⟨token, htoken, -⟩ :=
    Grammar.exists_token_of_lacks hname source.lacks_option (some value)
  have hne := hname.assignment_ne_doubleHyphen (some value)
  rcases Grammar.tokens_append (g := grammar) hhyphens with ⟨e, he⟩ | ⟨first, -, hrest⟩
  · rw [he, he]
  · rw [hrest, hrest, Grammar.tokens_cons hne htoken]
    cases grammar.tokens after <;> rfl

end Source

/-! ### The command of a line -/

theorem command_headers (rest : List Text) (s : Invocation) :
    command (text "headers" :: rest) s =
      (headersGrammar.parse {} rest).map fun (a, leftOver) =>
        { s with command? := some (.headers a), leftOver } := by
  have hbody : text "headers" ≠ text "body" := by decide
  simp only [command, List.headD_cons, List.drop_one, List.tail_cons, if_neg hbody, if_true]

theorem not_waits_of_isKnown {token : Token Invocation} (h : token.IsKnown grammar) :
    ¬token.Waits := by
  have hflags : ∀ opt ∈ grammar.options, opt.action.takesValue = false := by
    simp only [grammar, List.forall_mem_cons]
    exact ⟨rfl, rfl, List.forall_mem_nil _⟩
  rcases token with u | ⟨u, _ | found⟩
  · exact id
  · exact id
  · intro hwaits
    cases (hflags _ h).symm.trans hwaits.2

theorem exists_mem_of_forall₂ {α β : Type} {R : α → β → Prop} {as : List α} {bs : List β}
    (h : List.Forall₂ R as bs) {b : β} (hb : b ∈ bs) : ∃ a ∈ as, R a b := by
  induction h with
  | nil => cases hb
  | cons hfirst _ ih =>
    cases hb with
    | head => exact ⟨_, List.mem_cons_self, hfirst⟩
    | tail _ hb =>
      obtain ⟨a, ha, hR⟩ := ih hb
      exact ⟨a, List.mem_cons_of_mem _ ha, hR⟩

/-- What a line comes to whose arguments in front of the command have come to `done`. -/
def headersLine (done : Taken Invocation) : HeadersArgs × List Text → Except Ending Invocation
  | (a, leftOver) =>
    match done.leftOver.reverse ++ leftOver with
    | [] => .ok { done.state with command? := some (.headers a), leftOver }
    | several =>
      .error (misuse (text "unrecognized arguments: " ++ (text " ").intercalate several))

/-- The arguments in front of the command are told apart, then those behind it. Then the former are
taken, and the command takes the latter. -/
theorem exists_ofArgs_headers {front : List Text} (hhyphens : doubleHyphen ∉ front)
    (hfront : grammar.Excludes Token.IsOperand front) :
    ∃ first : Except Ending (Except Ending (Taken Invocation)), ∀ rest,
      Invocation.ofArgs (front ++ text "headers" :: rest) =
        first.bind fun taken => (grammar.tokens rest).bind fun _ => taken.bind fun done =>
          (headersGrammar.parse {} rest).bind (headersLine done) := by
  rcases Grammar.tokens_append (g := grammar) hhyphens with ⟨e, he⟩ | ⟨first, hfirst, hrest⟩
  · refine ⟨.error e, fun rest => ?_⟩
    rw [Invocation.ofArgs, Grammar.parse, he]
    rfl
  have hoptions : ∀ token ∈ first, ¬token.Waits ∧ ¬token.IsOperand := by
    intro token htoken
    obtain ⟨t, ht, htold⟩ := exists_mem_of_forall₂ hfirst htoken
    exact ⟨not_waits_of_isKnown (Grammar.isKnown_of_token htold), hfront t ht token htold⟩
  have hstart : ({ state := {} } : Taken Invocation).phase = .pending := rfl
  obtain ⟨taken, htaken⟩ := Grammar.take_front (g := grammar) rfl hoptions hstart
  refine ⟨.ok taken, fun rest => ?_⟩
  have hoperand : grammar.token (text "headers") = .ok (.operand (text "headers")) := by rfl
  rw [Invocation.ofArgs, Grammar.parse, hrest, Grammar.tokens_cons (by decide) hoperand]
  cases hlater : grammar.tokens rest with
  | error e => rfl
  | ok later =>
    simp only [bind, Except.bind, Except.map, htaken, Grammar.texts_of_tokens hlater,
      command_headers]
    cases taken with
    | error e => rfl
    | ok done =>
      dsimp only
      cases headersGrammar.parse {} rest with
      | error e => rfl
      | ok parsed =>
        have hmissing (s : Invocation) : grammar.missing s = [] := rfl
        simp only [headersLine, hmissing, pure, Except.pure]
        cases done.leftOver.reverse ++ parsed.2 <;> rfl

/-! ### Lines with a place for an option -/

/-- A command line for headers with a place among its options for one that it does not give. -/
structure OpenLine (source : Source) where
  /-- What stands in front of the command, none of it an operand. -/
  front : List Text
  before : List Text
  after : List Text
  front_hyphens : doubleHyphen ∉ front
  front_operand : grammar.Excludes Token.IsOperand front
  /-- Behind two hyphens there is no place for an option. -/
  before_hyphens : doubleHyphen ∉ before
  /-- Neither is there one between another option and its value. -/
  before_complete : headersGrammar.EndsComplete before
  omits : headersGrammar.Omits source.option (before ++ after)

namespace OpenLine

variable {source : Source} (line : OpenLine source)

def args : List Text := line.front ++ text "headers" :: (line.before ++ line.after)

def argsWith (value : Text) : List Text :=
  line.front ++ text "headers" ::
    (line.before ++ assignment source.option (some value) :: line.after)

theorem omits_after : headersGrammar.Omits source.option line.after := by
  intro t ht
  have hbefore : ∀ u ∈ line.before, decide (u ≠ doubleHyphen) = true :=
    fun u hu => decide_eq_true fun heq => line.before_hyphens (heq ▸ hu)
  refine line.omits t ?_
  rw [List.takeWhile_append_of_pos hbefore]
  exact List.mem_append_right _ ht

/-- With the option a line ends as it does without, or it is accepted with the part set that the
option is about. -/
theorem ofArgs_argsWith :
    (∃ e, Invocation.ofArgs line.args = .error e ∧
      ∀ value, Invocation.ofArgs (line.argsWith value) = .error e) ∨
    ∃ verbose a, source.get a = none ∧
      Invocation.ofArgs line.args = .ok { verbose, command? := some (.headers a) } ∧
      ∀ value, Invocation.ofArgs (line.argsWith value) = .ok
        { verbose, command? := some (.headers (source.set (Argument.ofText value).text? a)) } := by
  obtain ⟨first, hfirst⟩ := exists_ofArgs_headers line.front_hyphens line.front_operand
  have htokens (value : Text) {α : Type} (x : Except Ending α) :=
    source.bind_tokens_assignment value line.before_hyphens line.after x
  have hparse (value : Text) := source.parse_assignment value line.before_hyphens
    line.before_complete line.omits_after
  simp only [args, argsWith, hfirst, hparse, htokens]
  cases first with
  | error e => exact .inl ⟨e, rfl, fun _ => rfl⟩
  | ok taken =>
  cases grammar.tokens (line.before ++ line.after) with
  | error e => exact .inl ⟨e, rfl, fun _ => rfl⟩
  | ok _ =>
  cases taken with
  | error e => exact .inl ⟨e, rfl, fun _ => rfl⟩
  | ok done =>
  cases hplain : headersGrammar.parse {} (line.before ++ line.after) with
  | error e => exact .inl ⟨e, rfl, fun _ => rfl⟩
  | ok parsed =>
    obtain ⟨a, leftOver⟩ := parsed
    simp only [Except.bind, Except.map, headersLine]
    cases hleft : done.leftOver.reverse ++ leftOver with
    | cons first rest => exact .inl ⟨_, rfl, fun _ => rfl⟩
    | nil =>
      obtain ⟨-, rfl⟩ := List.append_eq_nil_iff.1 hleft
      exact .inr ⟨_, a, Source.get_eq_none_of_parse line.omits hplain, rfl, fun _ => rfl⟩

end OpenLine

end Cli

end CompletionWire
