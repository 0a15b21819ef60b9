import CompletionWire.Proofs.Cli.Arguments
import CompletionWire.Proofs.Cli.Assignments
import Mathlib.Data.List.Forall2
import Mathlib.Data.List.Induction

/-!
# An option among other arguments

An option that changes one part of the state may stand anywhere among arguments that are about other
parts: what these do commutes with the change, token by token, so that taking all arguments comes to
the change of what the others come to, with the same left over and the same refusals. Only the place
between an option and its value is not free.
-/

namespace CompletionWire

namespace Cli

variable {σ : Type} {c : σ → σ}

/-- The option does the same before and after a change of the state. -/
def Opt.CommutesWith (c : σ → σ) (opt : Opt σ) : Prop :=
  match opt.action with
  | .help => True
  | .flag apply => ∀ s, apply (c s) = c (apply s)
  | .value apply => ∀ a s, apply a (c s) = (apply a s).map c

def Action.takesValue : Action σ → Bool
  | .value _ => true
  | .help | .flag _ => false

theorem Action.exists_of_takesValue {action : Action σ} (h : action.takesValue = true) :
    ∃ apply, action = .value apply := by
  cases action with
  | value apply => exact ⟨apply, rfl⟩
  | help | flag => cases h

namespace Grammar

def Token.Waits : Token σ → Prop
  | .option _ (some found) => found.value? = none ∧ found.opt.action.takesValue = true
  | _ => False

instance : DecidablePred (Token.Waits (σ := σ))
  | .option _ (some _) => inferInstanceAs (Decidable (_ ∧ _))
  | .option _ none | .operand _ => inferInstanceAs (Decidable False)

/-- The token gives the option that has this name, under whatever name. -/
def Token.Gives (name : Text) : Token σ → Prop
  | .option _ (some found) => name ∈ found.opt.names
  | _ => False

instance (name : Text) : DecidablePred (Token.Gives (σ := σ) name)
  | .option _ (some found) => inferInstanceAs (Decidable (name ∈ found.opt.names))
  | .option _ none | .operand _ => inferInstanceAs (Decidable False)

def Token.IsOperand : Token σ → Prop
  | .operand _ => True
  | .option .. => False

instance : DecidablePred (Token.IsOperand (σ := σ))
  | .operand _ => inferInstanceAs (Decidable True)
  | .option .. => inferInstanceAs (Decidable False)

def Taken.map (c : σ → σ) (done : Taken σ) : Taken σ := { done with state := c done.state }

variable {g : Grammar σ}

/-! ### One token -/

def optionEffect (g : Grammar σ) (done : Taken σ) (t : Text) :
    Option (Found σ) → Except Ending (Taken σ)
  | none => .ok (done.leave [t])
  | some found =>
    match found.opt.action, found.value? with
    | .value apply, some v =>
      (g.applyValue done.state found.opt apply (.ofText v)).map done.behindOption
    | .value _, none => .error (g.misuseOf found.opt (text "expected one argument"))
    | _, _ =>
      ((g.flags found).bind fun run => run.foldlM g.applyFlag done.state).map done.behindOption

theorem take_option {t : Text} {found? : Option (Found σ)}
    (hwaits : ¬(Token.option t found?).Waits) (behind? : Option (List Text)) (done : Taken σ)
    (rest : List (Token σ)) :
    g.take behind? done (.option t found? :: rest) =
      (g.optionEffect done t found?).bind fun done' => g.take behind? done' rest := by
  cases found? with
  | none => rw [take]; rfl
  | some found =>
    cases haction : found.opt.action with
    | value apply =>
      cases hvalue : found.value? with
      | none => exact absurd ⟨hvalue, congrArg Action.takesValue haction⟩ hwaits
      | some v =>
        simp only [take, optionEffect, haction, hvalue]
        cases g.applyValue done.state found.opt apply (.ofText v) <;> rfl
    | help =>
      simp only [take, optionEffect, haction]
      cases (g.flags found).bind fun run => run.foldlM g.applyFlag done.state <;> rfl
    | flag apply =>
      simp only [take, optionEffect, haction]
      cases (g.flags found).bind fun run => run.foldlM g.applyFlag done.state <;> rfl

theorem take_waits {t : Text} {found : Found σ} {apply : Argument → σ → Except Text σ}
    (hvalue : found.value? = none) (haction : found.opt.action = .value apply)
    (behind? : Option (List Text)) (done : Taken σ) :
    (∀ u rest, g.take behind? done (.option t (some found) :: .operand u :: rest) =
      (g.applyValue done.state found.opt apply (.given u)).bind fun state =>
        g.take behind? (done.behindOption state) rest) ∧
    ∀ rest, (∀ u later, rest ≠ .operand u :: later) →
      g.take behind? done (.option t (some found) :: rest) =
        .error (g.misuseOf found.opt (text "expected one argument")) := by
  constructor
  · intro u rest
    simp only [take, haction, hvalue]
    cases g.applyValue done.state found.opt apply (.given u) <;> rfl
  · intro rest hrest
    simp only [take, haction, hvalue]

theorem take_operand (hoperand : g.operand = .none) (t : Text) (behind? : Option (List Text))
    (done : Taken σ) (rest : List (Token σ)) :
    g.take behind? done (.operand t :: rest) = g.take behind? (done.leave [t]) rest := by
  simp only [take, hoperand]

/-- Tokens are taken one by one, but for an option that waits, which is taken with the operand
behind it or is refused for want of one. -/
@[elab_as_elim]
theorem take_induction {motive : List (Token σ) → Prop} (nil : motive [])
    (operand : ∀ t rest, motive rest → motive (.operand t :: rest))
    (option : ∀ t found? rest, ¬(Token.option t found?).Waits → motive rest →
      motive (.option t found? :: rest))
    (supplied : ∀ t u (found : Found σ) apply rest, found.value? = none →
      found.opt.action = .value apply → motive rest →
      motive (.option t (some found) :: .operand u :: rest))
    (stuck : ∀ t (found : Found σ) apply rest, found.value? = none →
      found.opt.action = .value apply → (∀ u later, rest ≠ .operand u :: later) →
      motive (.option t (some found) :: rest)) :
    ∀ tokens, motive tokens
  | [] => nil
  | .operand t :: rest => operand t rest (take_induction nil operand option supplied stuck rest)
  | .option t none :: rest =>
    option t none rest id (take_induction nil operand option supplied stuck rest)
  | .option t (some found) :: rest => by
    by_cases hwaits : (Token.option t (some found)).Waits
    · obtain ⟨hvalue, htakes⟩ := hwaits
      obtain ⟨apply, haction⟩ := Action.exists_of_takesValue htakes
      match rest with
      | .operand u :: later =>
        exact supplied t u found apply later hvalue haction
          (take_induction nil operand option supplied stuck later)
      | [] => exact stuck t found apply [] hvalue haction (by simp)
      | .option u found? :: later =>
        exact stuck t found apply _ hvalue haction (by simp)
    · exact option t (some found) rest hwaits
        (take_induction nil operand option supplied stuck rest)

/-! ### Tokens that commute with a change -/

/-- A grammar without operands whose options, the one of this name aside, commute with a change of
the state that supplies nothing that is required. The option of the name takes a value. -/
structure CommutesBut (g : Grammar σ) (name : Text) (c : σ → σ) : Prop where
  operand : g.operand = .none
  missing : ∀ s, g.missing (c s) = g.missing s
  others : ∀ opt ∈ g.options, name ∉ opt.names → opt.CommutesWith c
  named : ∀ opt ∈ g.options, name ∈ opt.names → opt.action.takesValue = true

variable {name : Text}

theorem applyValue_map {opt : Opt σ} {apply : Argument → σ → Except Text σ}
    (haction : opt.action = .value apply) (hopt : opt.CommutesWith c) (a : Argument) (s : σ) :
    g.applyValue (c s) opt apply a = (g.applyValue s opt apply a).map c := by
  rw [Opt.CommutesWith, haction] at hopt
  rw [applyValue, applyValue, hopt a s]
  cases apply a s <;> rfl

theorem applyFlag_map (hg : g.CommutesBut name c) {opt : Opt σ} (hopt : opt ∈ g.options) (s : σ) :
    g.applyFlag (c s) opt = (g.applyFlag s opt).map c := by
  by_cases hname : name ∈ opt.names
  · obtain ⟨apply, haction⟩ := Action.exists_of_takesValue (hg.named opt hopt hname)
    simp only [applyFlag, haction]
    rfl
  · have hcommutes := hg.others opt hopt hname
    unfold Opt.CommutesWith at hcommutes
    cases haction : opt.action with
    | help =>
      simp only [applyFlag, haction]
      rfl
    | value apply =>
      simp only [applyFlag, haction]
      rfl
    | flag apply =>
      rw [haction] at hcommutes
      simp only [applyFlag, haction, hcommutes]
      rfl

theorem foldlM_map (hg : g.CommutesBut name c) {run : List (Opt σ)}
    (hrun : ∀ opt ∈ run, opt ∈ g.options) (s : σ) :
    run.foldlM g.applyFlag (c s) = (run.foldlM g.applyFlag s).map c := by
  induction run generalizing s with
  | nil => rfl
  | cons opt run ih =>
    obtain ⟨hopt, hrest⟩ := List.forall_mem_cons.1 hrun
    rw [List.foldlM_cons, List.foldlM_cons, applyFlag_map hg hopt]
    cases g.applyFlag s opt with
    | error e => rfl
    | ok s' => exact ih hrest s'

theorem flags_map (hg : g.CommutesBut name c) {found : Found σ} (hfound : found.opt ∈ g.options)
    (s : σ) :
    ((g.flags found).bind fun run => run.foldlM g.applyFlag (c s)) =
      ((g.flags found).bind fun run => run.foldlM g.applyFlag s).map c := by
  cases hflags : g.flags found with
  | error e => rfl
  | ok run => exact foldlM_map hg (mem_of_flags hfound hflags) s

theorem optionEffect_map (hg : g.CommutesBut name c) {t : Text} {found? : Option (Found σ)}
    (hknown : (Token.option t found?).IsKnown g) (hgives : ¬(Token.option t found?).Gives name)
    (done : Taken σ) :
    g.optionEffect (done.map c) t found? = (g.optionEffect done t found?).map (Taken.map c) := by
  cases found? with
  | none => rfl
  | some found =>
    have hflags := flags_map hg hknown done.state
    cases haction : found.opt.action with
    | value apply =>
      cases hvalue : found.value? with
      | none =>
        simp only [optionEffect, haction, hvalue]
        rfl
      | some v =>
        have happly := applyValue_map (g := g) haction (hg.others _ hknown hgives) (.ofText v)
          done.state
        simp only [optionEffect, haction, hvalue, Taken.map, happly]
        cases g.applyValue done.state found.opt apply (.ofText v) <;> rfl
    | help | flag =>
      simp only [optionEffect, haction, Taken.map, hflags]
      cases (g.flags found).bind fun run => run.foldlM g.applyFlag done.state <;> rfl

/-- Arguments that do not give an option come to the same change of what they come to. -/
theorem take_map (hg : g.CommutesBut name c) {tokens : List (Token σ)}
    (hknown : ∀ token ∈ tokens, token.IsKnown g) (hgives : ∀ token ∈ tokens, ¬token.Gives name)
    (behind? : Option (List Text)) (done : Taken σ) :
    g.take behind? (done.map c) tokens = (g.take behind? done tokens).map (Taken.map c) := by
  induction tokens using take_induction generalizing done with
  | nil => simp only [take, takeBehind, hg.operand]; rfl
  | operand t rest ih =>
    rw [take_operand hg.operand, take_operand hg.operand]
    exact ih (List.forall_mem_cons.1 hknown).2 (List.forall_mem_cons.1 hgives).2 (done.leave [t])
  | option t found? rest hwaits ih =>
    obtain ⟨hfirst, hknown⟩ := List.forall_mem_cons.1 hknown
    obtain ⟨hother, hgives⟩ := List.forall_mem_cons.1 hgives
    rw [take_option hwaits, take_option hwaits, optionEffect_map hg hfirst hother]
    cases g.optionEffect done t found? with
    | error e => rfl
    | ok done' => exact ih hknown hgives done'
  | supplied t u found apply rest hvalue haction ih =>
    obtain ⟨hfirst, hknown⟩ := List.forall_mem_cons.1 hknown
    obtain ⟨hother, hgives⟩ := List.forall_mem_cons.1 hgives
    have hwaits (done : Taken σ) := (take_waits (g := g) (t := t) hvalue haction behind? done).1
    have happly := applyValue_map (g := g) haction (hg.others _ hfirst hother) (.given u) done.state
    rw [hwaits, hwaits, Taken.map, happly]
    cases g.applyValue done.state found.opt apply (.given u) with
    | error e => rfl
    | ok state =>
      exact ih (List.forall_mem_cons.1 hknown).2 (List.forall_mem_cons.1 hgives).2
        (done.behindOption state)
  | stuck t found apply rest hvalue haction hrest =>
    have hwaits (done : Taken σ) := (take_waits (g := g) (t := t) hvalue haction behind? done).2
    rw [hwaits _ rest hrest, hwaits _ rest hrest]
    rfl

theorem Taken.phase_behindOption {done : Taken σ} (h : done.phase = .pending) (s : σ) :
    (done.behindOption s).phase = .pending := by
  simp [Taken.behindOption, h]

theorem Taken.phase_leave {done : Taken σ} (h : done.phase = .pending) (ts : List Text) :
    (done.leave ts).phase = .pending := by
  simp [Taken.leave, h]

theorem phase_of_optionEffect {done done' : Taken σ} {t : Text} {found? : Option (Found σ)}
    (h : g.optionEffect done t found? = .ok done') (hphase : done.phase = .pending) :
    done'.phase = .pending := by
  cases found? with
  | none => exact Except.ok.inj h ▸ Taken.phase_leave hphase [t]
  | some found =>
    rw [optionEffect] at h
    split at h
    · obtain ⟨s, -, rfl⟩ := exists_of_map_eq_ok h
      exact Taken.phase_behindOption hphase s
    · cases h
    · obtain ⟨s, -, rfl⟩ := exists_of_map_eq_ok h
      exact Taken.phase_behindOption hphase s

/-- An option that makes the change makes it wherever it stands, unless its place is between another
option and the value of this one. -/
theorem take_insert (hg : g.CommutesBut name c) {t : Text} {found? : Option (Found σ)}
    (hwaits : ¬(Token.option t found?).Waits)
    (heffect : ∀ done, g.optionEffect done t found? = .ok (done.behindOption (c done.state)))
    {before after : List (Token σ)} (hbefore : ∀ token ∈ before.getLast?, ¬token.Waits)
    (hknown : ∀ token ∈ after, token.IsKnown g) (hgives : ∀ token ∈ after, ¬token.Gives name)
    (behind? : Option (List Text)) {done : Taken σ} (hphase : done.phase = .pending) :
    g.take behind? done (before ++ .option t found? :: after) =
      (g.take behind? done (before ++ after)).map (Taken.map c) := by
  induction before using take_induction generalizing done with
  | nil =>
    have hsame : done.behindOption (c done.state) = done.map c := by
      simp [Taken.behindOption, Taken.map, hphase]
    rw [List.nil_append, List.nil_append, take_option hwaits, heffect, hsame]
    exact take_map hg hknown hgives behind? done
  | operand u rest ih =>
    rw [List.cons_append, List.cons_append, take_operand hg.operand, take_operand hg.operand]
    exact ih (fun token h => hbefore token (List.mem_getLast?_cons h)) (Taken.phase_leave hphase _)
  | option u found? rest hwaits' ih =>
    rw [List.cons_append, List.cons_append, take_option hwaits', take_option hwaits']
    cases heffect' : g.optionEffect done u found? with
    | error e => rfl
    | ok done' =>
      exact ih (fun token h => hbefore token (List.mem_getLast?_cons h))
        (phase_of_optionEffect heffect' hphase)
  | supplied t' u found apply rest hvalue haction ih =>
    have htaken := (take_waits (g := g) (t := t') hvalue haction behind? done).1
    simp only [List.cons_append]
    rw [htaken, htaken]
    cases g.applyValue done.state found.opt apply (.given u) with
    | error e => rfl
    | ok state =>
      refine ih (fun token h => hbefore token ?_) (Taken.phase_behindOption hphase state)
      exact List.mem_getLast?_cons (List.mem_getLast?_cons h)
  | stuck t' found apply rest hvalue haction hrest =>
    have hstuck := (take_waits (g := g) (t := t') hvalue haction behind? done).2
    match rest with
    | [] => exact absurd ⟨hvalue, congrArg Action.takesValue haction⟩ (hbefore _ rfl)
    | .operand u :: later => exact absurd rfl (hrest u later)
    | .option u found? :: later =>
      simp only [List.cons_append]
      rw [hstuck _ (by simp), hstuck _ (by simp)]
      rfl

/-! ### Arguments -/

theorem text_of_token {t : Text} {token : Token σ} (h : g.token t = .ok token) :
    token.text = t := by
  unfold Grammar.token at h
  split at h
  · exact Except.ok.inj h ▸ rfl
  · split at h
    · exact Except.ok.inj h ▸ rfl
    · split at h
      · exact Except.ok.inj h ▸ rfl
      · split at h <;> exact Except.ok.inj h ▸ rfl
      · cases h

theorem texts_of_tokens {ts : List Text} {tokens : Tokens σ} (h : g.tokens ts = .ok tokens) :
    tokens.before.map Token.text ++ withHyphens tokens.behind? = ts := by
  induction ts generalizing tokens with
  | nil => exact Except.ok.inj h ▸ rfl
  | cons t rest ih =>
    rw [Grammar.tokens] at h
    split_ifs at h with ht
    · exact Except.ok.inj h ▸ ht ▸ rfl
    · split at h
      · cases h
      · rename_i first hfirst
        obtain ⟨later, hlater, rfl⟩ := exists_of_map_eq_ok h
        rw [List.map_cons, List.cons_append, text_of_token hfirst, ih hlater]

/-- No argument is told to be a token of a kind. -/
def Excludes (g : Grammar σ) (kind : Token σ → Prop) (ts : List Text) : Prop :=
  ∀ t ∈ ts, ∀ token, g.token t = .ok token → ¬kind token

instance (kind : Token σ → Prop) [DecidablePred kind] (ts : List Text) :
    Decidable (g.Excludes kind ts) :=
  decidable_of_iff (∀ t ∈ ts, ∀ token ∈ (g.token t).toOption, ¬kind token) <| by
    have htold (t : Text) (token : Token σ) :
        token ∈ (g.token t).toOption ↔ g.token t = .ok token := by
      cases g.token t <;> simp [Except.toOption]
    simp only [Excludes, htold]

/-- Before two hyphens, no argument gives the option of this name. -/
def Omits (g : Grammar σ) (name : Text) (ts : List Text) : Prop :=
  g.Excludes (Token.Gives name) (ts.takeWhile (· ≠ doubleHyphen))

instance (ts : List Text) : Decidable (g.Omits name ts) :=
  inferInstanceAs (Decidable (g.Excludes _ _))

/-- The last argument does not wait for a value. -/
def EndsComplete (g : Grammar σ) (ts : List Text) : Prop :=
  g.Excludes Token.Waits ts.getLast?.toList

instance (ts : List Text) : Decidable (g.EndsComplete ts) :=
  inferInstanceAs (Decidable (g.Excludes _ _))

theorem not_gives_of_tokens {ts : List Text} (hts : g.Omits name ts) {tokens : Tokens σ}
    (h : g.tokens ts = .ok tokens) : ∀ token ∈ tokens.before, ¬token.Gives name := by
  induction ts generalizing tokens with
  | nil => exact Except.ok.inj h ▸ List.forall_mem_nil _
  | cons t rest ih =>
    rw [Grammar.tokens] at h
    split_ifs at h with ht
    · exact Except.ok.inj h ▸ List.forall_mem_nil _
    · split at h
      · cases h
      · rename_i first hfirst
        obtain ⟨later, hlater, rfl⟩ := exists_of_map_eq_ok h
        rw [Omits, Excludes, List.takeWhile_cons_of_pos (by simpa using ht)] at hts
        obtain ⟨hgives, hrest⟩ := List.forall_mem_cons.1 hts
        exact List.forall_mem_cons.2 ⟨hgives first hfirst, ih hrest hlater⟩

/-- Arguments are told apart in front of others as they are alone. -/
theorem tokens_append {front : List Text} (hfront : doubleHyphen ∉ front) :
    (∃ e, ∀ rest, g.tokens (front ++ rest) = .error e) ∨
      ∃ first, List.Forall₂ (fun t token => g.token t = .ok token) front first ∧
        ∀ rest, g.tokens (front ++ rest) =
          (g.tokens rest).map fun later => { later with before := first ++ later.before } := by
  induction front with
  | nil =>
    refine .inr ⟨[], .nil, fun rest => ?_⟩
    rw [List.nil_append]
    cases g.tokens rest <;> rfl
  | cons t front ih =>
    obtain ⟨ht, hfront⟩ : doubleHyphen ≠ t ∧ doubleHyphen ∉ front := by simpa using hfront
    simp only [List.cons_append]
    cases htoken : g.token t with
    | error e => exact .inl ⟨e, fun rest => by rw [tokens, if_neg ht.symm, htoken]⟩
    | ok token =>
      simp only [tokens_cons ht.symm htoken]
      rcases ih hfront with ⟨e, he⟩ | ⟨first, hfirst, hrest⟩
      · exact .inl ⟨e, fun rest => by rw [he]; rfl⟩
      · refine .inr ⟨token :: first, .cons htoken hfirst, fun rest => ?_⟩
        rw [hrest]
        cases g.tokens rest <;> rfl

theorem getLast?_of_forall₂ {before : List Text} {first : List (Token σ)}
    (h : List.Forall₂ (fun t token => g.token t = .ok token) before first)
    (hlast : g.EndsComplete before) : ∀ token ∈ first.getLast?, ¬token.Waits := by
  have hreverse := List.rel_reverse h
  rw [EndsComplete, List.getLast?_eq_head?_reverse] at hlast
  rw [List.getLast?_eq_head?_reverse]
  generalize before.reverse = ts at hlast hreverse
  generalize first.reverse = tokens at hreverse
  intro token htoken
  cases hreverse with
  | nil => cases htoken
  | cons ht _ =>
    cases htoken
    exact hlast _ (List.mem_singleton_self _) _ ht

/-- What arguments come to is changed by an option among them as the option changes the state. -/
theorem parse_insert (hg : g.CommutesBut name c) {t : Text} {found? : Option (Found σ)}
    (htoken : g.token t = .ok (.option t found?)) (ht : t ≠ doubleHyphen)
    (hwaits : ¬(Token.option t found?).Waits)
    (heffect : ∀ done, g.optionEffect done t found? = .ok (done.behindOption (c done.state)))
    {before after : List Text} (hhyphens : doubleHyphen ∉ before)
    (hlast : g.EndsComplete before) (hafter : g.Omits name after) (s : σ) :
    g.parse s (before ++ t :: after) =
      (g.parse s (before ++ after)).map fun (s, leftOver) => (c s, leftOver) := by
  rw [parse, parse]
  rcases tokens_append (g := g) hhyphens with ⟨e, he⟩ | ⟨first, hfirst, hrest⟩
  · rw [he, he]
    rfl
  rw [hrest, hrest, tokens_cons ht htoken]
  cases hlater : g.tokens after with
  | error e => rfl
  | ok later =>
    have hstart : ({ state := s } : Taken σ).phase = .pending := rfl
    have htake := take_insert hg hwaits heffect (getLast?_of_forall₂ hfirst hlast)
      (isKnown_of_tokens hlater) (not_gives_of_tokens hafter hlater) later.behind? hstart
    simp only [bind, Except.bind, Except.map, htake]
    cases g.take later.behind? { state := s } (first ++ later.before) with
    | error e => rfl
    | ok taken =>
      simp only [Taken.map, hg.missing]
      cases g.missing taken.state <;> rfl

/-- A change that does nothing at the start does nothing to what arguments come to that do not give
the option. -/
theorem parse_map (hg : g.CommutesBut name c) {ts : List Text} (hts : g.Omits name ts) {s : σ}
    (hs : c s = s) :
    g.parse s ts = (g.parse s ts).map fun (s, leftOver) => (c s, leftOver) := by
  rw [parse]
  cases htokens : g.tokens ts with
  | error e => rfl
  | ok tokens =>
    have htake := take_map hg (isKnown_of_tokens htokens) (not_gives_of_tokens hts htokens)
      tokens.behind? { state := s }
    simp only [Taken.map, hs] at htake
    simp only [bind, Except.bind]
    cases htaken : g.take tokens.behind? { state := s } tokens.before with
    | error e => rfl
    | ok taken =>
      rw [htaken] at htake
      have hstate : taken.state = c taken.state := congrArg Taken.state (Except.ok.inj htake)
      simp only []
      cases g.missing taken.state with
      | nil => simp only [Except.map, pure, Except.pure, ← hstate]
      | cons first rest => rfl

/-! ### Arguments in front of an operand -/

/-- An operand that takes what stands behind it leaves it as it was given, and what stands in front
is taken whatever this is. -/
theorem take_front {apply : List Text → σ → Except Ending σ} (hoperand : g.operand = .rest apply)
    {front : List (Token σ)}
    (hfront : ∀ token ∈ front, ¬token.Waits ∧ ¬token.IsOperand) {done : Taken σ}
    (hphase : done.phase = .pending) :
    ∃ taken : Except Ending (Taken σ), ∀ behind? t rest,
      g.take behind? done (front ++ .operand t :: rest) = taken.bind fun done' =>
        (apply (t :: (rest.map Token.text ++ withHyphens behind?)) done'.state).map fun state =>
          { done' with state, phase := .closed } := by
  induction front generalizing done with
  | nil =>
    refine ⟨.ok done, fun behind? t rest => ?_⟩
    simp only [List.nil_append, take, hoperand, hphase]
    rfl
  | cons token front ih =>
    obtain ⟨⟨hwaits, hoption⟩, hrest⟩ := List.forall_mem_cons.1 hfront
    cases token with
    | operand u => exact absurd trivial hoption
    | option u found? =>
      simp only [List.cons_append, take_option hwaits]
      cases heffect : g.optionEffect done u found? with
      | error e => exact ⟨.error e, fun _ _ _ => rfl⟩
      | ok done' => exact ih hrest (phase_of_optionEffect heffect hphase)

end Grammar

end Cli

end CompletionWire
