import CompletionWire.Cli.Command
import CompletionWire.Proofs.Decimal.Numerals
import CompletionWire.Proofs.Except

/-!
# What arguments lead to

Arguments are taken one after the other, and each does to the state what its option or the operand
does. So whatever the options and the operand of a grammar preserve holds of every state that
arguments lead to. Of the number of tokens that a request asks for this tells its length, which is
limited for numerals, however often and in whatever form the option was given.
-/

namespace CompletionWire

namespace Cli

variable {σ τ : Type} {P : σ → Prop}

/-! ### One option -/

def Opt.Preserves (P : σ → Prop) (opt : Opt σ) : Prop :=
  match opt.action with
  | .help => True
  | .flag apply => ∀ s, P s → P (apply s)
  | .value apply => ∀ a s s', apply a s = .ok s' → P s → P s'

def Operand.Preserves (P : σ → Prop) : Operand σ → Prop
  | .none => True
  | .one apply => ∀ name? s, P s → P (apply name? s)
  | .rest apply => ∀ ts s s', apply ts s = .ok s' → P s → P s'

namespace Grammar

/-- All that the grammar may do with an argument leads to states with the property again. -/
structure Preserves (g : Grammar σ) (P : σ → Prop) : Prop where
  options : ∀ opt ∈ g.options, opt.Preserves P
  operand : g.operand.Preserves P

variable {g : Grammar σ}

theorem Preserves.one (hg : g.Preserves P) {apply : Option Text → σ → σ}
    (hone : g.operand = .one apply) (name? : Option Text) {s : σ} (hs : P s) :
    P (apply name? s) := by
  have hoperand := hg.operand
  rw [hone] at hoperand
  exact hoperand name? s hs

theorem Preserves.rest (hg : g.Preserves P) {apply : List Text → σ → Except Ending σ}
    (hrest : g.operand = .rest apply) {ts : List Text} {s s' : σ} (h : apply ts s = .ok s')
    (hs : P s) : P s' := by
  have hoperand := hg.operand
  rw [hrest] at hoperand
  exact hoperand ts s s' h hs

/-! ### Options that are found -/

theorem mem_of_mem_names {m : Text × Opt σ} (h : m ∈ g.names) : m.2 ∈ g.options := by
  obtain ⟨opt, hopt, hm⟩ := List.mem_flatMap.1 h
  obtain ⟨name, -, rfl⟩ := List.mem_map.1 hm
  exact hopt

theorem mem_of_find? {name : Text} {opt : Opt σ} (h : g.find? name = some opt) :
    opt ∈ g.options := by
  obtain ⟨m, hm, rfl⟩ := Option.map_eq_some_iff.1 h
  exact mem_of_mem_names (List.mem_of_find?_eq_some hm)

theorem mem_of_fullName? {t : Text} {found : Found σ} (h : g.fullName? t = some found) :
    found.opt ∈ g.options := by
  unfold fullName? at h
  split at h
  · rename_i opt hopt
    rw [← Option.some.inj h]
    exact mem_of_find? hopt
  · split at h
    · obtain ⟨opt, hopt, rfl⟩ := Option.map_eq_some_iff.1 h
      exact mem_of_find? hopt
    · cases h

theorem mem_of_mem_candidates {t : Text} {found : Found σ} (h : found ∈ g.candidates t) :
    found.opt ∈ g.options := by
  unfold candidates at h
  split at h
  · obtain ⟨m, hm, rfl⟩ := List.mem_map.1 h
    exact mem_of_mem_names (List.mem_filter.1 hm).1
  · obtain ⟨⟨name, opt⟩, hm, hfound⟩ := List.mem_filterMap.1 h
    have hopt : found.opt = opt := by
      dsimp only at hfound
      split_ifs at hfound <;> rw [← Option.some.inj hfound]
    exact hopt ▸ mem_of_mem_names hm

/-- An argument that is told to be an option is one of the grammar's. -/
def Token.IsKnown (g : Grammar σ) : Token σ → Prop
  | .option _ (some found) => found.opt ∈ g.options
  | _ => True

theorem isKnown_of_token {t : Text} {token : Token σ} (h : g.token t = .ok token) :
    token.IsKnown g := by
  unfold Grammar.token at h
  split at h
  · obtain rfl := Except.ok.inj h
    trivial
  · split at h
    · rename_i found hfound
      obtain rfl := Except.ok.inj h
      exact mem_of_fullName? hfound
    · split at h
      · rename_i found hfound
        obtain rfl := Except.ok.inj h
        exact mem_of_mem_candidates (hfound ▸ List.mem_singleton_self found)
      · split at h <;> obtain rfl := Except.ok.inj h <;> trivial
      · cases h

theorem isKnown_of_tokens {ts : List Text} {tokens : Tokens σ} (h : g.tokens ts = .ok tokens) :
    ∀ token ∈ tokens.before, token.IsKnown g := by
  induction ts generalizing tokens with
  | nil =>
    obtain rfl := Except.ok.inj h
    exact List.forall_mem_nil _
  | cons t rest ih =>
    rw [Grammar.tokens] at h
    split_ifs at h
    · obtain rfl := Except.ok.inj h
      exact List.forall_mem_nil _
    · split at h
      · cases h
      · rename_i first hfirst
        obtain ⟨later, hlater, rfl⟩ := exists_of_map_eq_ok h
        exact List.forall_mem_cons.2 ⟨isKnown_of_token hfirst, ih hlater⟩

theorem mem_of_flagRun {opt : Opt σ} (hopt : opt ∈ g.options) {t : Text} {run : List (Opt σ)}
    (h : g.flagRun opt t = .ok run) : ∀ opt ∈ run, opt ∈ g.options := by
  induction t generalizing opt run with
  | nil =>
    obtain rfl := Except.ok.inj h
    exact List.forall_mem_singleton.2 hopt
  | cons c rest ih =>
    rw [flagRun] at h
    split at h
    · rename_i next hnext
      obtain ⟨later, hlater, rfl⟩ := exists_of_map_eq_ok h
      exact List.forall_mem_cons.2 ⟨hopt, ih (mem_of_find? hnext) hlater⟩
    · cases h

theorem mem_of_flags {found : Found σ} (hfound : found.opt ∈ g.options) {run : List (Opt σ)}
    (h : g.flags found = .ok run) : ∀ opt ∈ run, opt ∈ g.options := by
  unfold flags at h
  split at h
  · obtain rfl := Except.ok.inj h
    exact List.forall_mem_singleton.2 hfound
  · split_ifs at h
    exact mem_of_flagRun hfound h

/-! ### Arguments that are taken -/

theorem preserves_applyFlag {opt : Opt σ} (hopt : opt.Preserves P) {s s' : σ}
    (h : g.applyFlag s opt = .ok s') (hs : P s) : P s' := by
  unfold applyFlag at h
  unfold Opt.Preserves at hopt
  cases haction : opt.action with
  | flag apply =>
    rw [haction] at h hopt
    exact Except.ok.inj h ▸ hopt s hs
  | help | value =>
    rw [haction] at h
    cases h

theorem preserves_applyValue {opt : Opt σ} (hopt : opt.Preserves P)
    {apply : Argument → σ → Except Text σ} (haction : opt.action = .value apply) {a : Argument}
    {s s' : σ} (h : g.applyValue s opt apply a = .ok s') (hs : P s) : P s' := by
  unfold Opt.Preserves at hopt
  rw [haction] at hopt
  exact hopt a s s' (eq_ok_of_mapError h) hs

theorem preserves_foldlM (hg : g.Preserves P) {run : List (Opt σ)}
    (hrun : ∀ opt ∈ run, opt ∈ g.options) {s s' : σ} (h : run.foldlM g.applyFlag s = .ok s')
    (hs : P s) : P s' := by
  induction run generalizing s with
  | nil => exact Except.ok.inj h ▸ hs
  | cons opt rest ih =>
    obtain ⟨hopt, hrest⟩ := List.forall_mem_cons.1 hrun
    rw [List.foldlM_cons] at h
    obtain ⟨next, hnext, h⟩ := exists_of_bind_eq_ok h
    exact ih hrest h (preserves_applyFlag (hg.options opt hopt) hnext hs)

theorem preserves_takeBehind (hg : g.Preserves P) {done done' : Taken σ}
    {behind? : Option (List Text)} (h : g.takeBehind done behind? = .ok done')
    (hdone : P done.state) : P done'.state := by
  unfold takeBehind at h
  split at h
  · rename_i hone _
    exact Except.ok.inj h ▸ hg.one hone _ hdone
  · rename_i hone _
    exact Except.ok.inj h ▸ hg.one hone _ hdone
  · rename_i hone _
    exact Except.ok.inj h ▸ hg.one hone _ hdone
  · exact Except.ok.inj h ▸ hdone
  · rename_i hrest _
    obtain ⟨state, hstate, rfl⟩ := exists_of_map_eq_ok h
    exact hg.rest hrest hstate hdone
  · exact Except.ok.inj h ▸ hdone

/-- The tokens are taken from left to right, and the state has the property at each of them. -/
theorem preserves_take (hg : g.Preserves P) {behind? : Option (List Text)} {done done' : Taken σ}
    {tokens : List (Token σ)} (htokens : ∀ token ∈ tokens, token.IsKnown g)
    (h : g.take behind? done tokens = .ok done') (hdone : P done.state) : P done'.state := by
  fun_induction g.take behind? done tokens with
  | case1 done => exact preserves_takeBehind hg h hdone
  | case2 done t rest ih => exact ih (List.forall_mem_cons.1 htokens).2 h hdone
  | case4 done t found rest apply v hvalue haction state hstate ih =>
    obtain ⟨hknown, hrest⟩ := List.forall_mem_cons.1 htokens
    exact ih hrest h (preserves_applyValue (hg.options _ hknown) haction hstate hdone)
  | case6 done t found apply hvalue haction t' later state hstate ih =>
    obtain ⟨hknown, hrest⟩ := List.forall_mem_cons.1 htokens
    refine ih (List.forall_mem_cons.1 hrest).2 h ?_
    exact preserves_applyValue (hg.options _ hknown) haction hstate hdone
  | case9 done t found rest state hstate _ _ ih =>
    obtain ⟨hknown, hrest⟩ := List.forall_mem_cons.1 htokens
    obtain ⟨run, hrun, hfold⟩ := exists_of_bind_eq_ok hstate
    exact ih hrest h (preserves_foldlM hg (mem_of_flags hknown hrun) hfold hdone)
  | case10 done t rest apply hphase hone ih =>
    exact ih (List.forall_mem_cons.1 htokens).2 h (hg.one hone _ hdone)
  | case11 done t rest apply hphase hrest =>
    obtain ⟨state, hstate, rfl⟩ := exists_of_map_eq_ok h
    exact hg.rest hrest hstate hdone
  | case12 done t rest _ _ ih => exact ih (List.forall_mem_cons.1 htokens).2 h hdone
  | case3 | case5 | case7 | case8 => cases h

theorem preserves_parse (hg : g.Preserves P) {start s : σ} {args leftOver : List Text}
    (h : g.parse start args = .ok (s, leftOver)) (hstart : P start) : P s := by
  obtain ⟨tokens, htokens, h⟩ := exists_of_bind_eq_ok h
  obtain ⟨taken, htaken, h⟩ := exists_of_bind_eq_ok h
  split at h
  · obtain ⟨rfl, -⟩ := Prod.mk.inj (Except.ok.inj h)
    exact preserves_take hg (isKnown_of_tokens htokens) htaken hstart
  · cases h

end Grammar

/-! ### How many tokens a request asks for -/

def GenerationArgs.HasCount (a : GenerationArgs) : Prop :=
  a.maxNewTokens = .array [] ∨ ∃ n : Int, a.maxNewTokens = .int n ∧ n.natAbs < 10 ^ 4300

def Command.HasCount : Command → Prop
  | .body a => a.HasCount
  | .complete a => a.generation.HasCount
  | .headers _ | .parse _ => True

theorem preserves_within {opt : Opt σ} (h : opt.Preserves P) {get : τ → σ} {set : σ → τ → τ}
    (hget : ∀ s t, get (set s t) = s) : (opt.within get set).Preserves fun t => P (get t) := by
  unfold Opt.Preserves at h ⊢
  rw [Opt.within]
  cases haction : opt.action with
  | help => trivial
  | flag apply =>
    rw [haction] at h
    intro t ht
    rw [hget]
    exact h _ ht
  | value apply =>
    rw [haction] at h
    intro a t t' hset ht
    obtain ⟨s, happly, rfl⟩ := exists_of_map_eq_ok hset
    rw [hget]
    exact h a _ s happly ht

/-- An option on a part leaves whatever does not depend on this part. -/
theorem preserves_apart {opt : Opt σ} {get : τ → σ} {set : σ → τ → τ} {Q : τ → Prop}
    (hset : ∀ s t, Q (set s t) = Q t) : (opt.within get set).Preserves Q := by
  unfold Opt.Preserves
  rw [Opt.within]
  cases opt.action with
  | help => trivial
  | flag apply => exact fun t ht => (hset _ t).symm ▸ ht
  | value apply =>
    intro a t t' h ht
    obtain ⟨s, -, rfl⟩ := exists_of_map_eq_ok h
    exact (hset s t).symm ▸ ht

theorem preserves_value {name : String} {set : Argument → σ → σ}
    (h : ∀ a s, P s → P (set a s)) : (Opt.value name set).Preserves P :=
  fun a s _ hset hs => Except.ok.inj hset ▸ h a s hs

theorem preserves_number {name : String} {read : Argument → Except Text Json} {set : Json → σ → σ}
    (h : ∀ a v s, read a = .ok v → P s → P (set v s)) : (Opt.number name read set).Preserves P := by
  intro a s s' hset hs
  obtain ⟨v, hread, rfl⟩ := exists_of_map_eq_ok hset
  exact h a v s hread hs

theorem hasCount_of_int {a : Argument} {v : Json} (h : a.int = .ok v) :
    v = .array [] ∨ ∃ n : Int, v = .int n ∧ n.natAbs < 10 ^ 4300 := by
  cases a with
  | nothing => exact .inl (Except.ok.inj h).symm
  | given t =>
    rw [Argument.int, Argument.numeral] at h
    split at h
    · rename_i w hw
      obtain ⟨n, hn, rfl⟩ := Option.map_eq_some_iff.1 hw
      exact .inr ⟨n, (Except.ok.inj h).symm, Numeral.natAbs_lt_of_int? hn⟩
    · cases h

theorem preserves_generationOptions :
    ∀ opt ∈ generationOptions, opt.Preserves GenerationArgs.HasCount := by
  have hcount : (Opt.number "--max-new-tokens" Argument.int fun v (s : GenerationArgs) =>
      { s with maxNewTokens := v }).Preserves GenerationArgs.HasCount :=
    preserves_number fun _ _ _ hread _ => hasCount_of_int hread
  simp only [generationOptions, List.forall_mem_cons]
  exact ⟨preserves_value fun _ _ hs => hs, preserves_value fun _ _ hs => hs,
    preserves_value fun _ _ hs => hs, hcount, preserves_number fun _ _ _ _ hs => hs,
    preserves_number fun _ _ _ _ hs => hs, fun _ hs => hs, preserves_value fun _ _ hs => hs,
    List.forall_mem_nil _⟩

theorem hasCount_start : ({} : GenerationArgs).HasCount := by
  have hcount {limit : Nat} (hlimit : 2 ≤ limit) : (60 : Int).natAbs < 10 ^ limit :=
    (show 60 < 10 ^ 2 by decide).trans_le (Nat.pow_le_pow_right (by decide) hlimit)
  exact .inr ⟨60, rfl, hcount (by decide)⟩

theorem preserves_bodyGrammar : bodyGrammar.Preserves GenerationArgs.HasCount where
  options := List.forall_mem_cons.2 ⟨trivial, preserves_generationOptions⟩
  operand := trivial

theorem preserves_completeGrammar :
    completeGrammar.Preserves fun a : CompleteArgs => a.generation.HasCount where
  options := by
    refine List.forall_mem_cons.2 ⟨trivial, List.forall_mem_append.2 ⟨?_, ?_⟩⟩
    · exact List.forall_mem_map.2 fun opt hopt =>
        preserves_within (preserves_generationOptions opt hopt) fun _ _ => rfl
    · refine List.forall_mem_cons.2 ⟨preserves_value ?_, List.forall_mem_map.2 fun opt _ => ?_⟩
      · exact fun a s hs => by cases a <;> exact hs
      · exact preserves_apart fun _ _ => rfl
  operand := trivial

theorem hasCount_of_command {args : List Text} {s s' : Invocation} (h : command args s = .ok s') :
    ∀ c, s'.command? = some c → c.HasCount := by
  simp only [command] at h
  split_ifs at h
  · obtain ⟨⟨a, leftOver⟩, hparse, rfl⟩ := exists_of_map_eq_ok h
    intro c hc
    rw [← Option.some.inj hc]
    exact Grammar.preserves_parse preserves_bodyGrammar hparse hasCount_start
  · obtain ⟨⟨a, leftOver⟩, -, rfl⟩ := exists_of_map_eq_ok h
    intro c hc
    rw [← Option.some.inj hc]
    trivial
  · obtain ⟨⟨a, leftOver⟩, -, rfl⟩ := exists_of_map_eq_ok h
    intro c hc
    rw [← Option.some.inj hc]
    trivial
  · obtain ⟨⟨a, leftOver⟩, hparse, rfl⟩ := exists_of_map_eq_ok h
    intro c hc
    rw [← Option.some.inj hc]
    exact Grammar.preserves_parse preserves_completeGrammar hparse hasCount_start

theorem preserves_grammar :
    grammar.Preserves fun s => ∀ c, s.command? = some c → c.HasCount where
  options := by
    simp only [grammar, List.forall_mem_cons]
    exact ⟨trivial, fun _ hs => hs, List.forall_mem_nil _⟩
  operand := fun _ _ _ h _ => hasCount_of_command h

/-- Whatever the arguments are, a numeral has given the number of tokens. -/
theorem hasCount_of_args {args : List Text} {invocation : Invocation}
    (h : Invocation.ofArgs args = .ok invocation) {c : Command}
    (hc : invocation.command? = some c) : c.HasCount := by
  obtain ⟨⟨s, leftOver⟩, hparse, h⟩ := exists_of_bind_eq_ok h
  have hcount := Grammar.preserves_parse preserves_grammar hparse fun c hc => nomatch hc
  dsimp only at h
  split at h
  · exact hcount c (Except.ok.inj h ▸ hc)
  · cases h

end Cli

end CompletionWire
