import CompletionWire.Cli.Run
import CompletionWire.Proofs.Cli.Assignments
import CompletionWire.Proofs.Decimal.Numerals
import Mathlib.Data.List.Nodup

/-!
# A request told by options

What a caller chooses for a request is told by options, each of them one argument with its value in
it. They may stand in any order: an option changes one part of the arguments and nothing else, so
that only the order among options of one name counts, and of the stop texts alone there may be
several. A value may look like anything, two hyphens excepted, and is taken as it stands.
-/

namespace CompletionWire

namespace Cli

/-! ### Choices -/

/-- A text that is a value of an option as it stands: two hyphens would be taken for none. -/
structure PlainText where
  written : Text
  ne : written ≠ doubleHyphen

structure NumberText {α : Type} (read : Text → Option α) where
  written : Text
  value : α
  reads : read written = some value

structure ObjectText where
  written : Text
  members : Members
  reads : Json.read requestBodyRules written = .ok (.object members)

abbrev WholeText := NumberText Numeral.int?

abbrev FloatText := NumberText Numeral.binary64?

def WholeText.ofInt (n : Int) (h : n.natAbs < 10 ^ Numeral.maxDigits) : WholeText :=
  ⟨Text.ofInt n, n, Numeral.int?_ofInt h⟩

theorem NumberText.ne_of_unread {α : Type} {read : Text → Option α} (t : NumberText read) {s : Text}
    (h : read s = none) : t.written ≠ s := by
  rintro rfl
  exact absurd (h.symm.trans t.reads) (Option.some_ne_none _).symm

theorem WholeText.ne (t : WholeText) : t.written ≠ doubleHyphen :=
  t.ne_of_unread (by decide)

theorem FloatText.ne (t : FloatText) : t.written ≠ doubleHyphen :=
  t.ne_of_unread (by decide)

theorem ObjectText.ne_of_unread (t : ObjectText) {s : Text}
    (h : (Json.read requestBodyRules s).toOption = none) : t.written ≠ s := by
  rintro rfl
  rw [t.reads] at h
  cases h

theorem ObjectText.ne (t : ObjectText) : t.written ≠ doubleHyphen := t.ne_of_unread rfl

theorem ObjectText.ne_nil (t : ObjectText) : t.written ≠ [] := t.ne_of_unread rfl

/-- What a caller chooses for a request. -/
structure Choices where
  prompt : PlainText
  maxNewTokens : WholeText
  temperature : FloatText
  topP : FloatText
  sample : Bool
  stops : List PlainText
  requestBody? : Option ObjectText
  backend? : Option Backend

/-! ### Choices as options -/

inductive Flag
  | adaptor (b : Backend)
  | prompt (t : PlainText)
  | requestBody (t : ObjectText)
  | maxNewTokens (t : WholeText)
  | temperature (t : FloatText)
  | topP (t : FloatText)
  | noSample
  | stop (t : PlainText)

namespace Flag

def name : Flag → Text
  | adaptor _ => text "--adaptor"
  | prompt _ => text "--prompt"
  | requestBody _ => text "--request-body"
  | maxNewTokens _ => text "--max-new-tokens"
  | temperature _ => text "--temperature"
  | topP _ => text "--top-p"
  | noSample => text "--no-sample"
  | stop _ => text "--stop"

def value? : Flag → Option Text
  | adaptor b => some b.tag
  | prompt t | stop t => some t.written
  | requestBody t => some t.written
  | maxNewTokens t => some t.written
  | temperature t | topP t => some t.written
  | noSample => none

def argument (f : Flag) : Text := assignment f.name f.value?

def apply (f : Flag) (a : GenerationArgs) : GenerationArgs :=
  match f with
  | adaptor b => { a with adaptor? := some b.tag }
  | prompt t => { a with prompt? := some (.text t.written) }
  | requestBody t => { a with requestBody? := some t.written }
  | maxNewTokens t => { a with maxNewTokens := .int t.value }
  | temperature t => { a with temperature := .float t.value }
  | topP t => { a with topP := .float t.value }
  | noSample => { a with noSample := true }
  | stop t => { a with stop := a.stop ++ [.string t.written] }

theorem isLongName_name (f : Flag) : IsLongName f.name := by
  cases f <;> (dsimp only [name]; exact ⟨by decide, by decide, by decide⟩)

theorem lacks_name (f : Flag) : grammar.Lacks f.name := by
  cases f <;> (dsimp only [name, Grammar.Lacks]; decide)

theorem ofText_of_ne {t : Text} (h : t ≠ doubleHyphen) : Argument.ofText t = .given t :=
  if_neg h

theorem leads (f : Flag) (a : GenerationArgs) :
    bodyGrammar.Leads f.name f.value? a (f.apply a) := by
  cases f with
  | noSample => exact .flag rfl rfl a
  | adaptor b => cases b <;> exact .value rfl rfl rfl
  | prompt t | stop t =>
    refine .value rfl rfl ?_
    rw [ofText_of_ne t.ne]
    rfl
  | requestBody t =>
    refine .value rfl rfl ?_
    rw [ofText_of_ne t.ne]
    dsimp only
    rw [Argument.text?, Settings.nonEmpty?_of_ne t.ne_nil]
    rfl
  | maxNewTokens t =>
    refine .value rfl rfl ?_
    dsimp only
    rw [ofText_of_ne (WholeText.ne t), Argument.int, Argument.numeral, t.reads]
    rfl
  | temperature t | topP t =>
    refine .value rfl rfl ?_
    dsimp only
    rw [ofText_of_ne (FloatText.ne t), Argument.float, Argument.numeral, t.reads]
    rfl

def stop? : Flag → Option PlainText
  | stop t => some t
  | _ => none

def applyAll (flags : List Flag) (a : GenerationArgs) : GenerationArgs :=
  flags.foldl (fun a f => f.apply a) a

theorem applyAll_stops (ts : List PlainText) (a : GenerationArgs) :
    applyAll (ts.map stop) a =
      { a with stop := a.stop ++ ts.map fun t => .string t.written } := by
  induction ts generalizing a with
  | nil => exact congrArg (fun stop => { a with stop }) (List.append_nil _).symm
  | cons t ts ih =>
    rw [List.map_cons, applyAll, List.foldl_cons, ← applyAll, ih]
    exact congrArg (fun stop => { a with stop }) (List.append_assoc _ _ _)

theorem filter_stop (flags : List Flag) :
    flags.filter (·.name = text "--stop") = (flags.filterMap stop?).map stop := by
  induction flags with
  | nil => rfl
  | cons f flags ih =>
    cases f with
    | stop t => exact congrArg (stop t :: ·) ih
    | adaptor | prompt | requestBody | maxNewTokens | temperature | topP | noSample => exact ih

attribute [ext] GenerationArgs

/-- A part of the arguments that no option changes but those of one name, and these depending on
nothing else. -/
structure Sets {α : Type} (get : GenerationArgs → α) (name : Text) : Prop where
  other : ∀ (f : Flag) a, f.name ≠ name → get (f.apply a) = get a
  congr : ∀ (f : Flag) a b, get a = get b → get (f.apply a) = get (f.apply b)

theorem sets_each :
    Sets GenerationArgs.adaptor? (text "--adaptor") ∧
    Sets GenerationArgs.prompt? (text "--prompt") ∧
    Sets GenerationArgs.requestBody? (text "--request-body") ∧
    Sets GenerationArgs.maxNewTokens (text "--max-new-tokens") ∧
    Sets GenerationArgs.temperature (text "--temperature") ∧
    Sets GenerationArgs.topP (text "--top-p") ∧
    Sets GenerationArgs.noSample (text "--no-sample") ∧
    Sets GenerationArgs.stop (text "--stop") := by
  have hstop : ∀ (f : Flag) a b, a.stop = b.stop → (f.apply a).stop = (f.apply b).stop := by
    intro f a b h
    cases f with
    | stop t => exact congrArg (· ++ [.string t.written]) h
    | adaptor | prompt | requestBody | maxNewTokens | temperature | topP | noSample => exact h
  refine ⟨⟨?_, ?_⟩, ⟨?_, ?_⟩, ⟨?_, ?_⟩, ⟨?_, ?_⟩, ⟨?_, ?_⟩, ⟨?_, ?_⟩, ⟨?_, ?_⟩, ⟨?_, hstop⟩⟩
  all_goals
    intro f a
    cases f <;> first | exact fun _ => rfl | exact fun _ h => h | exact fun _ _ => rfl |
      exact fun h => absurd rfl h

theorem Sets.filter {α : Type} {get : GenerationArgs → α} {name : Text} (h : Sets get name)
    (flags : List Flag) {a b : GenerationArgs} (hab : get a = get b) :
    get (applyAll flags a) = get (applyAll (flags.filter (·.name = name)) b) := by
  induction flags generalizing a b with
  | nil => exact hab
  | cons f flags ih =>
    by_cases hf : f.name = name
    · rw [List.filter_cons, if_pos (decide_eq_true hf)]
      exact ih (h.congr f a b hab)
    · rw [List.filter_cons, if_neg (by simpa using hf)]
      exact ih ((h.other f a hf).trans hab)

/-- The order of options counts among those of one name only. -/
theorem applyAll_congr {flags flags' : List Flag}
    (h : ∀ name, flags.filter (·.name = name) = flags'.filter (·.name = name))
    (a : GenerationArgs) : applyAll flags a = applyAll flags' a := by
  have hget {α : Type} {get : GenerationArgs → α} {name : Text} (hsets : Sets get name) :
      get (applyAll flags a) = get (applyAll flags' a) := by
    rw [hsets.filter flags rfl, h name, ← hsets.filter flags' rfl]
  obtain ⟨hadaptor, hprompt, hbody, hcount, htemperature, htopP, hsample, hstop⟩ := sets_each
  exact GenerationArgs.ext (hget hadaptor) (hget hprompt) (hget hbody) (hget hcount)
    (hget htemperature) (hget htopP) (hget hsample) (hget hstop)

end Flag

namespace Choices

def singles (c : Choices) : List Flag :=
  (c.backend?.map .adaptor).toList ++ [.prompt c.prompt] ++
    (c.requestBody?.map .requestBody).toList ++
    [.maxNewTokens c.maxNewTokens, .temperature c.temperature, .topP c.topP] ++
    (if c.sample then [] else [.noSample])

def flags (c : Choices) : List Flag := c.singles ++ c.stops.map .stop

/-- The options may stand in any order, in which the stop texts keep their own. -/
structure AreTold (c : Choices) (flags : List Flag) : Prop where
  perm : flags.Perm c.flags
  stops : flags.filterMap Flag.stop? = c.stops

def args (c : Choices) : GenerationArgs where
  adaptor? := c.backend?.map Backend.tag
  prompt? := some (.text c.prompt.written)
  requestBody? := c.requestBody?.map ObjectText.written
  maxNewTokens := .int c.maxNewTokens.value
  temperature := .float c.temperature.value
  topP := .float c.topP.value
  noSample := !c.sample
  stop := c.stops.map fun t => .string t.written

theorem applyAll_flags (c : Choices) : Flag.applyAll c.flags {} = c.args := by
  rw [flags, Flag.applyAll, List.foldl_append, ← Flag.applyAll, ← Flag.applyAll,
    Flag.applyAll_stops, singles, args]
  cases c.backend? <;> cases c.requestBody? <;> cases c.sample <;> rfl

theorem nodup_singles (c : Choices) : (c.singles.map Flag.name).Nodup := by
  rw [singles]
  cases c.backend? <;> cases c.requestBody? <;> cases c.sample <;>
    (simp only [Option.map, Option.toList, List.map_append, List.map_cons, List.map_nil, Flag.name,
      if_true, Bool.false_eq_true, if_false]; decide)

theorem filterMap_stop_flags (c : Choices) : c.flags.filterMap Flag.stop? = c.stops := by
  have hsingles : c.singles.filterMap Flag.stop? = [] := by
    rw [singles]
    cases c.backend? <;> cases c.requestBody? <;> cases c.sample <;> rfl
  rw [flags, List.filterMap_append, hsingles, List.filterMap_map]
  exact List.filterMap_some

theorem filter_eq_of_areTold {c : Choices} {flags : List Flag} (h : c.AreTold flags)
    (name : Text) : flags.filter (·.name = name) = c.flags.filter (·.name = name) := by
  by_cases hname : name = text "--stop"
  · subst hname
    rw [Flag.filter_stop, Flag.filter_stop, h.stops, filterMap_stop_flags]
  · have hstops : (c.stops.map Flag.stop).filter (·.name = name) = [] :=
      List.filter_eq_nil_iff.2 (List.forall_mem_map.2 fun t _ =>
        fun heq => hname (of_decide_eq_true heq).symm)
    have hle : (c.flags.filter (·.name = name)).length ≤ 1 := by
      have hcount := List.nodup_iff_count_le_one.1 c.nodup_singles name
      rw [List.count_eq_countP, List.countP_map] at hcount
      rw [Choices.flags, List.filter_append, hstops, List.append_nil,
        ← List.countP_eq_length_filter]
      exact (List.countP_congr fun f _ => by simp).trans_le hcount
    have hperm := h.perm.filter (·.name = name)
    generalize c.flags.filter (·.name = name) = chosen at hle hperm
    match chosen, hle with
    | [], _ => exact List.perm_nil.1 hperm
    | [f], _ => exact List.perm_singleton.1 hperm

theorem applyAll_of_areTold {c : Choices} {flags : List Flag} (h : c.AreTold flags) :
    Flag.applyAll flags {} = c.args :=
  (Flag.applyAll_congr (filter_eq_of_areTold h) {}).trans c.applyAll_flags

/-- The options are taken for what they tell. -/
theorem ofArgs_of_areTold {c : Choices} {flags : List Flag} (h : c.AreTold flags) :
    Invocation.ofArgs (text "body" :: flags.map Flag.argument) =
      .ok { command? := some (.body c.args) } := by
  have happly := applyAll_of_areTold h
  have hbody : bodyGrammar.parse {} (flags.map Flag.argument) = .ok (c.args, []) := by
    have hmissing : bodyGrammar.missing (Flag.applyAll flags {}) = [] := by
      rw [happly]
      rfl
    have hnames : bodyGrammar.NamesApart := by
      unfold Grammar.NamesApart
      decide
    rw [← happly]
    exact Grammar.parse_assignments hnames rfl Flag.isLongName_name Flag.leads hmissing
  have hcommand : command (text "body" :: flags.map Flag.argument) {} =
      .ok { command? := some (.body c.args) } := by
    have hselect : command (text "body" :: flags.map Flag.argument) {} =
      (bodyGrammar.parse {} (flags.map Flag.argument)).map fun r =>
        { command? := some (.body r.1), leftOver := r.2 } := rfl
    rw [hselect, hbody]
    rfl
  have hparse : grammar.parse {} (text "body" :: flags.map Flag.argument) =
      .ok ({ command? := some (.body c.args) }, []) :=
    Grammar.parse_operand_of_lacks rfl (by decide) Flag.isLongName_name Flag.lacks_name hcommand rfl
  rw [Invocation.ofArgs, hparse]
  rfl

end Choices

end Cli

end CompletionWire
