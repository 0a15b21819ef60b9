import CompletionWire.Proofs.Session.Steps

/-!
# Sharing in sessions

Names fall into classes: storing new data makes a class of its own, and a copy joins the class of
what it copies. The classes are counted beside a session and never looked at by it. In every session
that starts with no names, names are in one class exactly if they belong to one origin, and this is
all it takes to say which names see a change of a request object.
-/

namespace CompletionWire

/-- A session with the class of every name: the number of the step that made the class. -/
structure Tracked where
  session : Session
  steps : Nat := 0
  classOf : Text → Option Nat := fun _ => none

namespace Session

/-- The generation parameters and the backend that are seen through a name. -/
def fixedPart? (s : Session) (name : Text) : Option (GenerationParams × Option Backend) :=
  (s.params? name).map fun p => (p.generation, p.backend?)

/-- Both names give access to one request object. -/
def HoldSameObject (s : Session) (a b : Text) : Prop :=
  (s.object? a).isSome ∧ (s.object? b).isSome ∧
    ∃ p q, s.stored? a = some p ∧ s.stored? b = some q ∧ p.origin = q.origin

end Session

namespace Tracked

open Session

/-- The class of a name after a step that stores something under it. -/
def nextClass (t : Tracked) : Operation → Option Nat
  | .copy source _ _ => t.classOf source
  | _ => some t.steps

def step (t : Tracked) (op : Operation) : Tracked where
  session := (t.session.apply op).1
  steps := t.steps + 1
  classOf name := if t.session.stores op name then t.nextClass op else t.classOf name

def run (t : Tracked) (ops : List Operation) : Tracked := ops.foldl step t

theorem effect_step (t : Tracked) (op : Operation) :
    Effect t.session op (t.step op).session :=
  effect_apply t.session op

def start (environment : Environment) : Tracked := { session := { environment } }

/-- Classes follow origins. -/
structure Sound (t : Tracked) : Prop where
  session : t.session.Sound
  classed : ∀ name, (t.classOf name).isSome = (t.session.stored? name).isSome
  made : ∀ name k, t.classOf name = some k → k < t.steps
  same : ∀ a b p q, t.session.stored? a = some p → t.session.stored? b = some q →
    (t.classOf a = t.classOf b ↔ p.origin = q.origin)

theorem sound_start (environment : Environment) : (start environment).Sound where
  session := fun _ _ h => (nomatch h)
  classed := fun _ => rfl
  made := fun _ _ h => (nomatch h)
  same := fun _ _ _ _ h => (nomatch h)

theorem Sound.of_same_names {t t' : Tracked} (ht : t.Sound)
    (hstored : ∀ name, t'.session.stored? name = t.session.stored? name)
    (horigins : t'.session.origins.length = t.session.origins.length)
    (hclass : ∀ name, t'.classOf name = t.classOf name) (hsteps : t.steps ≤ t'.steps) :
    t'.Sound where
  session := by
    intro name p hp
    rw [hstored] at hp
    rw [horigins]
    exact ht.session name p hp
  classed := by
    intro name
    rw [hclass, hstored]
    exact ht.classed name
  made := by
    intro name k hk
    rw [hclass] at hk
    exact Nat.lt_of_lt_of_le (ht.made name k hk) hsteps
  same := by
    intro a b p q hp hq
    rw [hstored] at hp hq
    rw [hclass, hclass]
    exact ht.same a b p q hp hq

theorem Sound.of_stored {t t' : Tracked} (ht : t.Sound) {target : Text} {q : Stored} {k : Nat}
    (hself : t'.session.stored? target = some q)
    (hother : ∀ name, name ≠ target → t'.session.stored? name = t.session.stored? name)
    (horigins : t.session.origins.length ≤ t'.session.origins.length)
    (horigin : q.origin < t'.session.origins.length)
    (hclass : ∀ name, t'.classOf name = if name = target then some k else t.classOf name)
    (hk : k < t'.steps) (hsteps : t.steps ≤ t'.steps)
    (hfits : ∀ name p, t.session.stored? name = some p →
      (t.classOf name = some k ↔ p.origin = q.origin)) : t'.Sound where
  session := by
    intro name p hp
    by_cases hname : name = target
    · rw [hname, hself] at hp
      rwa [← Option.some.inj hp]
    · rw [hother name hname] at hp
      exact Nat.lt_of_lt_of_le (ht.session name p hp) horigins
  classed := by
    intro name
    rw [hclass]
    by_cases hname : name = target
    · rw [if_pos hname, hname, hself]
      rfl
    · rw [if_neg hname, hother name hname]
      exact ht.classed name
  made := by
    intro name l hl
    rw [hclass] at hl
    split at hl
    · rwa [← Option.some.inj hl]
    · exact Nat.lt_of_lt_of_le (ht.made name l hl) hsteps
  same := by
    intro a b p r hp hr
    rw [hclass, hclass]
    by_cases ha : a = target <;> by_cases hb : b = target
    · rw [ha, hself] at hp
      rw [hb, hself] at hr
      rw [if_pos ha, if_pos hb, ← Option.some.inj hp, ← Option.some.inj hr]
      exact iff_of_true rfl rfl
    · rw [ha, hself] at hp
      rw [hother b hb] at hr
      rw [if_pos ha, if_neg hb, ← Option.some.inj hp, eq_comm, hfits b r hr, eq_comm]
    · rw [hother a ha] at hp
      rw [hb, hself] at hr
      rw [if_neg ha, if_pos hb, ← Option.some.inj hr]
      exact hfits a p hp
    · rw [hother a ha] at hp
      rw [hother b hb] at hr
      rw [if_neg ha, if_neg hb]
      exact ht.same a b p r hp hr

theorem classOf_step_of_stores {t : Tracked} {op : Operation} {target : Text} {p : CompletionParams}
    (htarget : op.target? = some target) (hreply : (t.session.apply op).2.value = .params p)
    (name : Text) :
    (t.step op).classOf name = if name = target then t.nextClass op else t.classOf name := by
  simp only [step, stores_eq htarget hreply, decide_eq_true_eq]

theorem sound_step {t : Tracked} (ht : t.Sound) (op : Operation) : (t.step op).Sound := by
  have heffect := t.effect_step op
  generalize hs' : (t.step op).session = s' at heffect
  cases heffect with
  | keep environment lastBody? hstores hbody =>
    refine ht.of_same_names (fun name => ?_) ?_ (fun name => ?_) (Nat.le_succ _)
    · rw [hs']
      rfl
    · rw [hs']
    · simp only [step, hstores, Bool.false_eq_true, if_false]
  | @new target data p hop hreply =>
    have hclass := classOf_step_of_stores (by rw [hop]; rfl) hreply
    rw [show t.nextClass op = some t.steps by rw [hop]; rfl] at hclass
    have horigins : (t.step op).session.origins.length = t.session.origins.length + 1 := by
      rw [hs']
      exact List.length_append
    refine ht.of_stored (q := ⟨t.session.origins.length, p.backend?⟩) ?_ ?_ ?_ ?_ hclass
      (Nat.lt_succ_self _) (Nat.le_succ _) ?_
    · rw [hs', storeNew, stored?_store_self]
    · intro name hname
      rw [hs', storeNew, stored?_store_of_ne _ _ hname]
      rfl
    · rw [horigins]
      exact Nat.le_succ _
    · rw [horigins]
      exact Nat.lt_succ_self _
    · intro name r hr
      refine iff_of_false (fun h => ?_) (fun h => ?_)
      · exact Nat.lt_irrefl _ (ht.made name _ h)
      · exact Nat.lt_irrefl _ (h ▸ ht.session name r hr)
  | @copy source target tag? q p backend? hop hreply hfind =>
    have hsource := (find?_eq_some_iff.1 hfind).1
    obtain ⟨k, hk⟩ : ∃ k, t.classOf source = some k := by
      rw [← Option.isSome_iff_exists, ht.classed, hsource]
      rfl
    have hclass := classOf_step_of_stores (by rw [hop]; rfl) hreply
    rw [show t.nextClass op = some k by rw [hop]; exact hk] at hclass
    refine ht.of_stored (q := { q with backend? }) ?_ ?_ ?_ ?_ hclass
      (Nat.lt_succ_of_lt (ht.made source k hk)) (Nat.le_succ _) ?_
    · rw [hs', stored?_store_self]
    · intro name hname
      rw [hs', stored?_store_of_ne _ _ hname]
    · rw [hs']
      exact Nat.le_refl _
    · rw [hs']
      exact ht.session source q hsource
    · intro name r hr
      rw [← hk]
      exact ht.same name source r q hr hsource
  | @change name change q p ms changed hop hreply hfind hobject hchange =>
    have hstores := stores_of_target?_eq_none (target?_of_change? hop) t.session
    refine ht.of_same_names (fun name => ?_) ?_ (fun name => ?_) (Nat.le_succ _)
    · rw [hs', stored?_setOrigin]
    · rw [hs']
      exact List.length_set
    · simp only [step, hstores, Bool.false_eq_true, if_false]

theorem sound_run {t : Tracked} (ht : t.Sound) (ops : List Operation) : (t.run ops).Sound := by
  induction ops generalizing t with
  | nil => exact ht
  | cons op ops ih => exact ih (sound_step ht op)

/-! ### What names see -/

/-- The names of a class are those of an origin. -/
theorem classOf_eq_iff {t : Tracked} (ht : t.Sound) {name : Text} {q : Stored}
    (hq : t.session.stored? name = some q) (other : Text) :
    t.classOf other = t.classOf name ↔
      (t.session.stored? other).map (·.origin) = some q.origin := by
  cases hother : t.session.stored? other with
  | none =>
    have hnone := ht.classed other
    have hsome := ht.classed name
    rw [hother] at hnone
    rw [hq] at hsome
    refine iff_of_false (fun h => ?_) (fun h => ?_)
    · rw [h, hsome] at hnone
      cases hnone
    · cases h
  | some r =>
    rw [ht.same other name r q hother hq, Option.map_some, Option.some.injEq]

theorem holdSameObject_iff {t : Tracked} (ht : t.Sound) (a b : Text) :
    t.session.HoldSameObject a b ↔
      (t.session.object? a).isSome ∧ (t.session.object? b).isSome ∧ t.classOf a = t.classOf b := by
  constructor
  · intro h
    obtain ⟨ha, hb, p, q, hp, hq, horigin⟩ := h
    exact ⟨ha, hb, (ht.same a b p q hp hq).2 horigin⟩
  · intro h
    obtain ⟨ha, hb, hclass⟩ := h
    have hstored {name : Text} (h : (t.session.object? name).isSome) :
        ∃ q, t.session.stored? name = some q := by
      obtain ⟨ms, hms⟩ := Option.isSome_iff_exists.1 h
      obtain ⟨q, p, hfind, -⟩ := object?_eq_some_iff.1 hms
      exact ⟨q, (find?_eq_some_iff.1 hfind).1⟩
    obtain ⟨p, hp⟩ := hstored ha
    obtain ⟨q, hq⟩ := hstored hb
    exact ⟨ha, hb, p, q, hp, hq, (ht.same a b p q hp hq).1 hclass⟩

theorem step_change {t : Tracked} (ht : t.Sound) {op : Operation} {name : Text}
    {change : Members → Except Obstacle Members} {ms changed : Members}
    (hop : op.change? = some (name, change)) (hobject : t.session.object? name = some ms)
    (hchange : change ms = .ok changed) :
    (t.step op).session.environment = t.session.environment ∧
      (t.step op).session.lastBody? = t.session.lastBody? ∧
      ∀ other, (t.step op).session.params? other =
        if t.classOf other = t.classOf name then
          (t.session.params? other).map fun p => { p with requestBody? := some changed }
        else t.session.params? other := by
  obtain ⟨q, p, hfind, hbody⟩ := object?_eq_some_iff.1 hobject
  have hsession : (t.step op).session = (t.session.apply op).1 := rfl
  rw [hsession, (apply_change hop hfind hbody hchange).1]
  refine ⟨rfl, rfl, fun other => ?_⟩
  simp only [params?_setOrigin hfind, classOf_eq_iff ht (find?_eq_some_iff.1 hfind).1]

theorem change_succeeds_iff {s : Session} {op : Operation} {name : Text}
    {change : Members → Except Obstacle Members} (hop : op.change? = some (name, change)) :
    (s.apply op).2.value.isFailure = false ↔
      ∃ ms changed, s.object? name = some ms ∧ change ms = .ok changed := by
  constructor
  · intro hsucceeds
    rcases apply_change_cases hop s with ⟨q, p, ms, changed, hfind, hbody, hchange⟩ |
      ⟨reply, hs, hfails⟩
    · exact ⟨ms, changed, object?_eq_some_iff.2 ⟨q, p, hfind, hbody⟩, hchange⟩
    · rw [hs] at hsucceeds
      cases hfails.symm.trans hsucceeds
  · intro h
    obtain ⟨ms, changed, hobject, hchange⟩ := h
    obtain ⟨q, p, hfind, hbody⟩ := object?_eq_some_iff.1 hobject
    rw [(apply_change hop hfind hbody hchange).2]
    rfl

theorem params?_step_of_stores {t : Tracked} {op : Operation} {name : Text}
    (hstores : t.session.stores op name = true) :
    ∃ p, (t.session.apply op).2.value = .params p ∧ (t.step op).session.params? name = some p := by
  have heffect := t.effect_step op
  generalize (t.step op).session = s' at heffect
  have htarget : op.target? = some name := by
    simp only [stores, Bool.and_eq_true, decide_eq_true_eq] at hstores
    exact hstores.1
  cases heffect with
  | keep environment lastBody? hnever _ =>
    rw [hnever] at hstores
    cases hstores
  | @new target data p hop hreply =>
    obtain rfl : target = name := Option.some.inj (by rw [← htarget, hop]; rfl)
    exact ⟨p, hreply, params?_storeNew_self _ _ _⟩
  | @copy source target tag? q p backend? hop hreply hfind =>
    obtain rfl : target = name := Option.some.inj (by rw [← htarget, hop]; rfl)
    obtain ⟨o, ho, rfl⟩ := Option.map_eq_some_iff.1 (find?_eq_some_iff.1 hfind).2
    refine ⟨_, hreply, ?_⟩
    rw [params?_store_self, read?, ho]
    rfl
  | change hop hreply hfind hobject hchange =>
    rw [target?_of_change? hop] at htarget
    cases htarget

theorem params?_step_of_keep {t : Tracked} (ht : t.Sound) {op : Operation} {name : Text}
    (h : (op.change? = none ∧ t.session.stores op name = false) ∨
      (t.session.apply op).2.value.isFailure = true) :
    (t.step op).session.params? name = t.session.params? name := by
  have heffect := t.effect_step op
  generalize (t.step op).session = s' at heffect
  have hsucceeds {p : CompletionParams} (hreply : (t.session.apply op).2.value = .params p) :
      op.change? = none ∧ t.session.stores op name = false := by
    refine h.resolve_right ?_
    rw [hreply]
    intro hfails
    cases hfails
  cases heffect with
  | keep environment lastBody? _ _ => rfl
  | @new target data p hop hreply =>
    have hne := (hsucceeds hreply).2
    rw [stores_eq (by rw [hop]; rfl) hreply, decide_eq_false_iff_not] at hne
    exact params?_storeNew_of_ne ht.session p hne
  | @copy source target tag? q p backend? hop hreply hfind =>
    have hne := (hsucceeds hreply).2
    rw [stores_eq (by rw [hop]; rfl) hreply, decide_eq_false_iff_not] at hne
    exact params?_store_of_ne _ _ hne
  | change hop hreply hfind hobject hchange =>
    rw [(hsucceeds hreply).1] at hop
    cases hop

theorem fixedPart?_step {t : Tracked} (ht : t.Sound) {op : Operation} {name : Text}
    (hstores : t.session.stores op name = false) :
    (t.step op).session.fixedPart? name = t.session.fixedPart? name := by
  cases hchange : op.change? with
  | none => rw [fixedPart?, params?_step_of_keep ht (.inl ⟨hchange, hstores⟩), fixedPart?]
  | some found =>
    obtain ⟨changedName, change⟩ := found
    rcases apply_change_cases hchange t.session with
      ⟨q, p, ms, changed, hfind, hbody, hok⟩ | ⟨reply, happly, hfails⟩
    · have hobject := object?_eq_some_iff.2 ⟨q, p, hfind, hbody⟩
      rw [fixedPart?, (step_change ht hchange hobject hok).2.2, fixedPart?]
      split
      · rw [Option.map_map]
        rfl
      · rfl
    · have hkeep : (t.session.apply op).2.value.isFailure = true := by rwa [happly]
      rw [fixedPart?, params?_step_of_keep ht (.inr hkeep), fixedPart?]

theorem fixedPart?_run {t : Tracked} (ht : t.Sound) {ops : List Operation} {name : Text}
    (h : ∀ before op after, ops = before ++ op :: after →
      (t.run before).session.stores op name = false) :
    (t.run ops).session.fixedPart? name = t.session.fixedPart? name := by
  induction ops generalizing t with
  | nil => rfl
  | cons op ops ih =>
    have hfirst : t.session.stores op name = false := h [] op ops rfl
    have hrest : ∀ before next after, ops = before ++ next :: after →
        ((t.step op).run before).session.stores next name = false :=
      fun before next after heq => h (op :: before) next after (by rw [heq]; rfl)
    exact (ih (sound_step ht op) hrest).trans (fixedPart?_step ht hfirst)

/-! ### The last body -/

theorem lastBody?_step {t : Tracked} {op : Operation} (h : op.touchesBody = false) :
    (t.step op).session.lastBody? = t.session.lastBody? := by
  have heffect := t.effect_step op
  generalize (t.step op).session = s' at heffect
  cases heffect with
  | keep environment lastBody? _ hbody => exact hbody h
  | new hop hreply => rfl
  | copy hop hreply hfind => rfl
  | change hop hreply hfind hobject hchange => rfl

/-! ### Sessions -/

/-- The fields that can be named in an assignment to parameters, or to their generation
parameters. -/
def declaredFields (onGeneration : Bool) : List Text :=
  (if onGeneration then GenerationParams.fields else CompletionParams.fields).map Field.name

theorem startsWith_declaredFields (onGeneration : Bool) :
    ∀ field ∈ declaredFields onGeneration, Text.startsWith field (text "_") = false := by
  cases onGeneration <;> decide +kernel

theorem apply_assign {s : Session} {name field : Text} {p : CompletionParams} {onGeneration : Bool}
    (hp : s.params? name = some p) (hfield : field ∈ declaredFields onGeneration) (value : Json) :
    s.apply (.assign name field value onGeneration) =
      (s, .silent (.frozen
        ⟨if onGeneration then GenerationParams.modelName else CompletionParams.modelName,
          [⟨.frozen, [.key field], value⟩]⟩ p)) := by
  have hplain := startsWith_declaredFields onGeneration field hfield
  simp only [apply, assign, hp, hplain, Bool.false_eq_true, if_false]

/-- What holds of a session with its classes, whatever the next step is. -/
structure Laws (t : Tracked) : Prop where
  /-- A class that new data makes is not in use. -/
  fresh : ∀ name, t.classOf name ≠ some t.steps
  /-- Sharing a request object is being in one class. -/
  shared : ∀ a b, t.session.HoldSameObject a b ↔
    (t.session.object? a).isSome ∧ (t.session.object? b).isSome ∧ t.classOf a = t.classOf b
  /-- Adding and removing a member succeed where there is a request object that allows it, change
  the request object of the names of one class to one and the same, and nothing else. -/
  change : ∀ (op : Operation) name change, op.change? = some (name, change) →
    ((t.session.apply op).2.value.isFailure = false ↔
      ∃ ms changed, t.session.object? name = some ms ∧ change ms = .ok changed) ∧
    ∀ ms changed, t.session.object? name = some ms → change ms = .ok changed →
      (t.step op).session.environment = t.session.environment ∧
      (t.step op).session.lastBody? = t.session.lastBody? ∧
      ∀ other, (t.step op).session.params? other =
        if t.classOf other = t.classOf name then
          (t.session.params? other).map fun p => { p with requestBody? := some changed }
        else t.session.params? other
  /-- What is stored under a name is what the reply shows. -/
  stored : ∀ op name, t.session.stores op name = true →
    ∃ p, (t.session.apply op).2.value = .params p ∧ (t.step op).session.params? name = some p
  /-- The backend and the generation parameters of a name stay until it is stored again. -/
  fixed : ∀ ops name,
    (∀ before op after, ops = before ++ op :: after →
      (t.run before).session.stores op name = false) →
    (t.run ops).session.fixedPart? name = t.session.fixedPart? name
  /-- Assigning a declared field is refused. -/
  assign : ∀ name p onGeneration field value, t.session.params? name = some p →
    field ∈ declaredFields onGeneration →
    t.session.apply (.assign name field value onGeneration) =
      (t.session, .silent (.frozen
        ⟨if onGeneration then GenerationParams.modelName else CompletionParams.modelName,
          [⟨.frozen, [.key field], value⟩]⟩ p))
  /-- A step that changes no request object and stores nothing under a name, or that fails, leaves
  the parameters under the name alone. -/
  keep : ∀ (op : Operation) name,
    (op.change? = none ∧ t.session.stores op name = false) ∨
      (t.session.apply op).2.value.isFailure = true →
    (t.step op).session.params? name = t.session.params? name
  /-- What is built depends on the parameters of the name alone, and is kept if it exists. -/
  build : ∀ name prompt,
    (t.step (.build name prompt)).session.lastBody? =
        (t.session.built? name prompt).or t.session.lastBody? ∧
      ∀ b, (t.session.apply (.build name prompt)).2.value = .body b ↔
        t.session.built? name prompt = some b
  /-- Scribbling adds a stop text to the body that was built last. -/
  scribble : ∀ name stop, (t.step (.scribble name stop)).session.lastBody? =
    t.session.lastBody?.map (Request.addStop stop)
  /-- No other step changes the body that was built last. -/
  lastBody : ∀ op : Operation, op.touchesBody = false →
    (t.step op).session.lastBody? = t.session.lastBody?

theorem laws_of_sound {t : Tracked} (ht : t.Sound) : t.Laws where
  fresh := fun name h => Nat.lt_irrefl _ (ht.made name _ h)
  shared := holdSameObject_iff ht
  change := fun op name change hop =>
    ⟨change_succeeds_iff hop, fun ms changed hobject hchange => step_change ht hop hobject hchange⟩
  stored := fun op name h => params?_step_of_stores h
  fixed := fun ops name h => fixedPart?_run ht h
  assign := fun name p onGeneration field value hp hfield => apply_assign hp hfield value
  keep := fun op name h => params?_step_of_keep ht h
  build := by
    intro name prompt
    obtain ⟨hsession, hreply⟩ := apply_build t.session name prompt
    refine ⟨congrArg Session.lastBody? hsession, fun b => ?_⟩
    rcases hreply with ⟨hfails, hnone⟩ | ⟨b', hbody, hsome⟩
    · refine iff_of_false (fun h => ?_) (fun h => ?_)
      · rw [h] at hfails
        cases hfails
      · rw [h] at hnone
        cases hnone
    · rw [hbody, hsome, Reply.body.injEq, Option.some.injEq]
  scribble := fun name stop => congrArg Session.lastBody? (apply_scribble t.session name stop)
  lastBody := fun op h => lastBody?_step h

/-- The laws hold after every sequence of steps, failing ones included. -/
theorem laws_run (environment : Environment) (ops : List Operation) :
    ((start environment).run ops).Laws :=
  laws_of_sound (sound_run (sound_start environment) ops)

end Tracked

end CompletionWire
