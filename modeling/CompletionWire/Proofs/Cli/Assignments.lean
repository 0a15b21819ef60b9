import CompletionWire.Cli.Grammar
import Mathlib.Tactic.SplitIfs

/-!
# Options with their values in one argument

An argument that names an option in full and gives its value behind an equals sign cannot be taken
for anything else, whatever the value holds: names have no equals sign in them. So arguments of this
kind, with flags among them, do to the state what their options do, one after the other, and none is
left over. A grammar that knows none of the names still tells such arguments apart.
-/

namespace CompletionWire

namespace Cli

def equalsSign : CodePoint := CodePoint.ofChar '='

def assignment (name : Text) (value? : Option Text) : Text :=
  name ++ (value?.map (equalsSign :: ·)).getD []

/-- Two hyphens with more behind them, and with no equals sign among it. -/
structure IsLongName (name : Text) : Prop where
  long : name.startsWith doubleHyphen = true
  more : name ≠ doubleHyphen
  apart : equalsSign ∉ name

namespace IsLongName

variable {name : Text}

theorem cutAt_assignment (h : IsLongName name) (value? : Option Text) :
    Text.cutAt equalsSign (assignment name value?) = (name, value?) := by
  have hbefore : ∀ c ∈ name, decide (c ≠ equalsSign) = true :=
    fun c hc => decide_eq_true fun heq => h.apart (heq ▸ hc)
  rw [Text.cutAt, assignment, List.takeWhile_append_of_pos hbefore,
    List.dropWhile_append_of_pos hbefore]
  cases value? with
  | none => exact congrArg (·, none) (List.append_nil name)
  | some value =>
    rw [Option.map_some, Option.getD_some, List.takeWhile_cons_of_neg (by simp),
      List.dropWhile_cons_of_neg (by simp), List.append_nil]
    rfl

theorem exists_assignment_eq (h : IsLongName name) (value? : Option Text) :
    ∃ rest, assignment name value? = doubleHyphen ++ rest := by
  obtain ⟨rest, hrest⟩ := Option.isSome_iff_exists.1 h.long
  refine ⟨rest ++ (value?.map (equalsSign :: ·)).getD [], ?_⟩
  rw [assignment, Text.eq_append_of_dropStart? hrest, List.append_assoc]

theorem assignment_startsWith (h : IsLongName name) (value? : Option Text) :
    (assignment name value?).startsWith doubleHyphen = true := by
  obtain ⟨rest, hrest⟩ := h.exists_assignment_eq value?
  rw [hrest, Text.startsWith, Text.dropStart?_append]
  rfl

theorem not_operand (h : IsLongName name) (value? : Option Text) :
    ¬((assignment name value?).head? ≠ some hyphen ∨ assignment name value? = [hyphen]) := by
  obtain ⟨rest, hrest⟩ := h.exists_assignment_eq value?
  rw [hrest]
  simp [doubleHyphen]

theorem assignment_ne_doubleHyphen (h : IsLongName name) (value? : Option Text) :
    assignment name value? ≠ doubleHyphen := by
  intro heq
  have hcut := h.cutAt_assignment value?
  rw [heq] at hcut
  exact h.more (Prod.mk.inj hcut).1.symm

end IsLongName

namespace Grammar

variable {σ : Type} {g : Grammar σ} {name : Text}

/-! ### Options of the grammar -/

theorem mem_names_of_find? {opt : Opt σ} (h : g.find? name = some opt) : (name, opt) ∈ g.names := by
  obtain ⟨⟨name', opt'⟩, hm, rfl⟩ := Option.map_eq_some_iff.1 h
  have hname : name' = name := by simpa using List.find?_some hm
  exact hname ▸ List.mem_of_find?_eq_some hm

/-- The names of a grammar's options are no values: they hold no equals sign. -/
def NamesApart (g : Grammar σ) : Prop := ∀ m ∈ g.names, equalsSign ∉ m.1

theorem fullName?_assignment (hnames : g.NamesApart) (hname : IsLongName name) {opt : Opt σ}
    (hopt : g.find? name = some opt) (value? : Option Text) :
    g.fullName? (assignment name value?) = some ⟨opt, name, value?⟩ := by
  cases value? with
  | none => rw [assignment, Option.map_none, Option.getD_none, List.append_nil, fullName?, hopt]
  | some value =>
    have hwhole : g.find? (assignment name (some value)) = none := by
      cases hfind : g.find? (assignment name (some value)) with
      | none => rfl
      | some opt' =>
        exact absurd (List.mem_append_right _ List.mem_cons_self)
          (hnames _ (mem_names_of_find? hfind))
    rw [fullName?, hwhole, ← equalsSign, hname.cutAt_assignment]
    dsimp only
    rw [hopt]
    rfl

theorem token_assignment (hnames : g.NamesApart) (hname : IsLongName name) {opt : Opt σ}
    (hopt : g.find? name = some opt) (value? : Option Text) :
    g.token (assignment name value?) =
      .ok (.option (assignment name value?) (some ⟨opt, name, value?⟩)) := by
  rw [token, if_neg (hname.not_operand value?), fullName?_assignment hnames hname hopt]

/-- An argument that names an option in full leads from one state to another: a flag does, and an
option with a value that it accepts. -/
inductive Leads (g : Grammar σ) (name : Text) : Option Text → σ → σ → Prop
  | flag {opt : Opt σ} {apply : σ → σ} (hopt : g.find? name = some opt)
      (haction : opt.action = .flag apply) (s : σ) : Leads g name none s (apply s)
  | value {opt : Opt σ} {apply : Argument → σ → Except Text σ} {value : Text} {s s' : σ}
      (hopt : g.find? name = some opt) (haction : opt.action = .value apply)
      (happly : apply (.ofText value) s = .ok s') : Leads g name (some value) s s'

theorem exists_token_of_leads (hnames : g.NamesApart) (hname : IsLongName name)
    {value? : Option Text} {s s' : σ} (h : g.Leads name value? s s') :
    ∃ token, g.token (assignment name value?) = .ok token ∧ ∀ behind? rest,
      g.take behind? { state := s } (token :: rest) = g.take behind? { state := s' } rest := by
  cases h with
  | @flag opt apply hopt haction =>
    refine ⟨_, token_assignment hnames hname hopt none, fun behind? rest => ?_⟩
    have hrun : (g.flags ⟨opt, name, none⟩).bind (fun run => run.foldlM g.applyFlag s) =
        .ok (apply s) := by
      rw [flags, Except.bind, List.foldlM_cons, applyFlag, haction]
      rfl
    simp only [take, haction, hrun]
    rfl
  | @value opt apply value s s' hopt haction happly =>
    refine ⟨_, token_assignment hnames hname hopt _, fun behind? rest => ?_⟩
    have happly : g.applyValue s opt apply (.ofText value) = .ok s' := by
      rw [applyValue, happly]
      rfl
    simp only [take, haction, happly]
    rfl

/-! ### Names that are not known -/

/-- No option of the grammar has a name that begins as this one does. -/
def Lacks (g : Grammar σ) (name : Text) : Prop := ∀ m ∈ g.names, m.1.startsWith name = false

theorem find?_eq_none_of_lacks (h : g.Lacks name) (more : Text) :
    g.find? (name ++ more) = none := by
  cases hfind : g.find? (name ++ more) with
  | none => rfl
  | some opt =>
    have hstart := h _ (mem_names_of_find? hfind)
    rw [Text.startsWith, Text.dropStart?_append] at hstart
    cases hstart

theorem exists_token_of_lacks (hname : IsLongName name) (h : g.Lacks name)
    (value? : Option Text) :
    ∃ token, g.token (assignment name value?) = .ok token ∧
      token.text = assignment name value? := by
  have hfull : g.fullName? (assignment name value?) = none := by
    have hwhole : g.find? (assignment name value?) = none := find?_eq_none_of_lacks h _
    have hfirst : g.find? name = none := by
      have hfind := find?_eq_none_of_lacks h []
      rwa [List.append_nil] at hfind
    rw [fullName?, hwhole, ← equalsSign, hname.cutAt_assignment]
    cases value? with
    | none => rfl
    | some value =>
      dsimp only
      rw [hfirst]
      rfl
  have hcandidates : g.candidates (assignment name value?) = [] := by
    rw [candidates, if_pos (hname.assignment_startsWith value?), ← equalsSign,
      hname.cutAt_assignment]
    have hfilter : g.names.filter (·.1.startsWith name) = [] :=
      List.filter_eq_nil_iff.2 fun m hm => by rw [h m hm]; decide
    dsimp only
    rw [hfilter]
    rfl
  rw [token, if_neg (hname.not_operand value?), hfull, hcandidates]
  dsimp only
  split_ifs
  · exact ⟨_, rfl, rfl⟩
  · exact ⟨_, rfl, rfl⟩

/-! ### Lists of arguments -/

theorem tokens_cons {t : Text} {first : Token σ} (ht : t ≠ doubleHyphen)
    (hfirst : g.token t = .ok first) (rest : List Text) :
    g.tokens (t :: rest) =
      (g.tokens rest).map fun later => { later with before := first :: later.before } := by
  rw [tokens, if_neg ht, hfirst]

theorem parse_of_take {args : List Text} {before : List (Token σ)} {s : σ} {taken : Taken σ}
    (htokens : g.tokens args = .ok ⟨before, none⟩)
    (htake : g.take none { state := s } before = .ok taken)
    (hmissing : g.missing taken.state = []) :
    g.parse s args = .ok (taken.state, taken.leftOver.reverse) := by
  rw [parse, htokens]
  change (g.take none { state := s } before).bind _ = _
  rw [htake, Except.bind]
  simp only [hmissing]
  rfl

section List

variable {α : Type} {name : α → Text} {value? : α → Option Text} {apply : α → σ → σ}

/-- Arguments that lead from state to state are taken to their end, and nothing is left over. -/
theorem exists_tokens_of_leads (hnames : g.NamesApart) (hoperand : g.operand = .none)
    (hname : ∀ a, IsLongName (name a)) (hleads : ∀ a s, g.Leads (name a) (value? a) s (apply a s))
    (as : List α) (s : σ) :
    ∃ before, g.tokens (as.map fun a => assignment (name a) (value? a)) = .ok ⟨before, none⟩ ∧
      g.take none { state := s } before = .ok { state := as.foldl (fun s a => apply a s) s } := by
  induction as generalizing s with
  | nil =>
    refine ⟨[], rfl, ?_⟩
    simp only [take, takeBehind, hoperand]
    rfl
  | cons a as ih =>
    obtain ⟨first, hfirst, hstep⟩ := exists_token_of_leads hnames (hname a) (hleads a s)
    obtain ⟨before, htokens, htake⟩ := ih (apply a s)
    refine ⟨first :: before, ?_, (hstep none before).trans htake⟩
    rw [List.map_cons, tokens_cons ((hname a).assignment_ne_doubleHyphen _) hfirst, htokens]
    rfl

theorem parse_assignments (hnames : g.NamesApart) (hoperand : g.operand = .none)
    (hname : ∀ a, IsLongName (name a)) (hleads : ∀ a s, g.Leads (name a) (value? a) s (apply a s))
    {as : List α} {s : σ} (hmissing : g.missing (as.foldl (fun s a => apply a s) s) = []) :
    g.parse s (as.map fun a => assignment (name a) (value? a)) =
      .ok (as.foldl (fun s a => apply a s) s, []) := by
  obtain ⟨before, htokens, htake⟩ := exists_tokens_of_leads hnames hoperand hname hleads as s
  exact parse_of_take htokens htake hmissing

theorem exists_tokens_of_lacks (value? : α → Option Text) (hname : ∀ a, IsLongName (name a))
    (h : ∀ a, g.Lacks (name a)) (as : List α) :
    ∃ before, g.tokens (as.map fun a => assignment (name a) (value? a)) = .ok ⟨before, none⟩ ∧
      before.map Token.text = as.map fun a => assignment (name a) (value? a) := by
  induction as with
  | nil => exact ⟨[], rfl, rfl⟩
  | cons a as ih =>
    obtain ⟨first, hfirst, hfirsttext⟩ := exists_token_of_lacks (hname a) (h a) (value? a)
    obtain ⟨before, htokens, htexts⟩ := ih
    refine ⟨first :: before, ?_, ?_⟩
    · rw [List.map_cons, tokens_cons ((hname a).assignment_ne_doubleHyphen _) hfirst, htokens]
      rfl
    · rw [List.map_cons, List.map_cons, hfirsttext, htexts]

theorem parse_operand_of_lacks {take : List Text → σ → Except Ending σ}
    (hoperand : g.operand = .rest take) {t : Text} (ht : t.head? ≠ some hyphen)
    (hname : ∀ a, IsLongName (name a)) (h : ∀ a, g.Lacks (name a)) {as : List α} {s s' : σ}
    (htake : take (t :: as.map fun a => assignment (name a) (value? a)) s = .ok s')
    (hmissing : g.missing s' = []) :
    g.parse s (t :: as.map fun a => assignment (name a) (value? a)) = .ok (s', []) := by
  obtain ⟨before, htokens, htexts⟩ := exists_tokens_of_lacks value? hname h as
  have ht' : t ≠ doubleHyphen := fun heq => ht (heq ▸ rfl)
  have htoken : g.token t = .ok (.operand t) := if_pos (.inl ht)
  have htaken : g.take none { state := s } (.operand t :: before) =
      .ok { state := s', phase := .closed } := by
    simp only [Grammar.take, hoperand, htexts, withHyphens, List.append_nil, htake]
    rfl
  have htold : g.tokens (t :: as.map fun a => assignment (name a) (value? a)) =
      .ok ⟨.operand t :: before, none⟩ := by
    rw [tokens_cons ht' htoken, htokens]
    rfl
  exact parse_of_take htold htaken hmissing

end List

end Grammar

end Cli

end CompletionWire
