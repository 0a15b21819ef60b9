import CompletionWire.Session

/-!
# Steps of a session

What one step can do to what is stored: nothing, make an origin under a name, put a name to an
origin that exists, or change the request object of an origin. Everything about the parameters seen
through names follows from these four cases.
-/

namespace CompletionWire

namespace Session

def Reply.isFailure : Reply → Bool
  | .frozen _ _ | .obstacle _ | .mishap _ => true
  | _ => false

/-- The name under which a step stores something if it succeeds. -/
def Operation.target? : Operation → Option Text
  | .new name _ | .copy _ name _ => some name
  | _ => none

/-- The name whose request object a step changes, and how. -/
def Operation.change? : Operation → Option (Text × (Members → Except Obstacle Members))
  | .put name key value => some (name, fun ms => .ok (ms.put key value))
  | .drop name key => some (name, dropMember key)
  | _ => none

/-- The operations on the body that was built last. -/
def Operation.touchesBody : Operation → Bool
  | .build _ _ | .scribble _ _ => true
  | _ => false

def object? (s : Session) (name : Text) : Option Members :=
  (s.params? name).bind (·.requestBody?)

def stores (s : Session) (op : Operation) (name : Text) : Bool :=
  op.target? = some name && !(s.apply op).2.value.isFailure

/-- Every name belongs to an origin that exists. -/
def Sound (s : Session) : Prop :=
  ∀ name p, s.stored? name = some p → p.origin < s.origins.length

/-! ### Looking up -/

theorem find?_eq_some_iff {s : Session} {name : Text} {q : Stored} {p : CompletionParams} :
    s.find? name = some (q, p) ↔ s.stored? name = some q ∧ s.read? q = some p := by
  simp only [find?, Option.bind_eq_some_iff, Option.map_eq_some_iff, Prod.mk.injEq]
  constructor
  · intro h
    obtain ⟨q', hq, p', hp, rfl, rfl⟩ := h
    exact ⟨hq, hp⟩
  · intro h
    obtain ⟨hq, hp⟩ := h
    exact ⟨q, hq, p, hp, rfl, rfl⟩

theorem params?_eq_some_iff {s : Session} {name : Text} {p : CompletionParams} :
    s.params? name = some p ↔ ∃ q, s.find? name = some (q, p) := by
  simp only [params?, Option.bind_eq_some_iff, find?_eq_some_iff]

theorem object?_eq_some_iff {s : Session} {name : Text} {ms : Members} :
    s.object? name = some ms ↔ ∃ q p, s.find? name = some (q, p) ∧ p.requestBody? = some ms := by
  simp only [object?, Option.bind_eq_some_iff, params?_eq_some_iff]
  constructor
  · intro h
    obtain ⟨p, ⟨q, hfind⟩, hobject⟩ := h
    exact ⟨q, p, hfind, hobject⟩
  · intro h
    obtain ⟨q, p, hfind, hobject⟩ := h
    exact ⟨p, ⟨q, hfind⟩, hobject⟩

/-! ### Frames -/

theorem params?_store_self (s : Session) (name : Text) (q : Stored) :
    (s.store name q).params? name = s.read? q := by
  rw [params?, stored?_store_self]
  rfl

theorem params?_store_of_ne (s : Session) {name other : Text} (q : Stored) (h : other ≠ name) :
    (s.store name q).params? other = s.params? other := by
  rw [params?, stored?_store_of_ne s q h]
  rfl

theorem params?_storeNew_self (s : Session) (name : Text) (p : CompletionParams) :
    (s.storeNew name p).params? name = some p := by
  rw [storeNew, params?_store_self]
  simp [read?]

theorem params?_storeNew_of_ne {s : Session} (hs : s.Sound) {name other : Text}
    (p : CompletionParams) (h : other ≠ name) :
    (s.storeNew name p).params? other = s.params? other := by
  rw [storeNew, params?_store_of_ne _ _ h, params?, params?]
  have hstored : Session.stored? { s with origins := s.origins ++ [⟨p.generation, p.requestBody?⟩] }
      other = s.stored? other := rfl
  rw [hstored]
  cases hq : s.stored? other with
  | none => rfl
  | some q => simp [read?, List.getElem?_append_left (hs other q hq)]

theorem params?_setOrigin {s : Session} {name : Text} {q : Stored} {p : CompletionParams}
    (hfind : s.find? name = some (q, p)) (changed : Members) (other : Text) :
    (s.setOrigin q.origin ⟨p.generation, some changed⟩).params? other =
      if (s.stored? other).map (·.origin) = some q.origin then
        (s.params? other).map fun p => { p with requestBody? := some changed }
      else s.params? other := by
  obtain ⟨hq, hp⟩ := find?_eq_some_iff.1 hfind
  obtain ⟨o, ho, rfl⟩ := Option.map_eq_some_iff.1 hp
  have hlt : q.origin < s.origins.length := (List.getElem?_eq_some_iff.1 ho).1
  simp only [params?, stored?_setOrigin]
  cases hother : s.stored? other with
  | none => rfl
  | some r =>
    by_cases horigin : r.origin = q.origin
    · simp only [read?, setOrigin, horigin, List.getElem?_set_self hlt, ho, Option.map_some,
        Option.bind_some, if_true]
    · simp [read?, setOrigin, horigin, List.getElem?_set_ne (Ne.symm horigin)]

/-! ### What a step does -/

/-- The four things that a step can do to what is stored. -/
inductive Effect (s : Session) (op : Operation) : Session → Prop
  | keep (environment : Environment) (lastBody? : Option Members)
      (hstores : ∀ name, s.stores op name = false)
      (hbody : op.touchesBody = false → lastBody? = s.lastBody?) :
      Effect s op { s with environment, lastBody? }
  | new {name : Text} {data : Json} {p : CompletionParams} (hop : op = .new name data)
      (hreply : (s.apply op).2.value = .params p) : Effect s op (s.storeNew name p)
  | copy {name target : Text} {tag? : Option Text} {q : Stored} {p : CompletionParams}
      {backend? : Option Backend} (hop : op = .copy name target tag?)
      (hreply : (s.apply op).2.value = .params { p with backend? })
      (hfind : s.find? name = some (q, p)) : Effect s op (s.store target { q with backend? })
  | change {name : Text} {change : Members → Except Obstacle Members} {q : Stored}
      {p : CompletionParams} {ms changed : Members} (hop : op.change? = some (name, change))
      (hreply : (s.apply op).2.value = .params { p with requestBody? := some changed })
      (hfind : s.find? name = some (q, p)) (hobject : p.requestBody? = some ms)
      (hchange : change ms = .ok changed) :
      Effect s op (s.setOrigin q.origin ⟨p.generation, some changed⟩)

theorem stores_of_target?_eq_none {op : Operation} (h : op.target? = none) (s : Session)
    (name : Text) : s.stores op name = false := by
  simp [stores, h]

theorem stores_of_isFailure {s : Session} {op : Operation}
    (h : (s.apply op).2.value.isFailure = true) (name : Text) : s.stores op name = false := by
  simp [stores, h]

theorem stores_eq {s : Session} {op : Operation} {target : Text} {p : CompletionParams}
    (htarget : op.target? = some target) (hreply : (s.apply op).2.value = .params p)
    (name : Text) : s.stores op name = decide (name = target) := by
  rw [stores, htarget, hreply]
  simp [Reply.isFailure, eq_comm]

theorem apply_of_change? {op : Operation} {name : Text}
    {change : Members → Except Obstacle Members} (h : op.change? = some (name, change))
    (s : Session) : s.apply op = (s.changeObject name change).map id .silent := by
  cases op <;> cases h <;> rfl

/-- A request object that allows the change is changed. -/
theorem apply_change {s : Session} {op : Operation} {name : Text}
    {change : Members → Except Obstacle Members} {q : Stored} {p : CompletionParams}
    {ms changed : Members} (h : op.change? = some (name, change))
    (hfind : s.find? name = some (q, p)) (hobject : p.requestBody? = some ms)
    (hchange : change ms = .ok changed) :
    (s.apply op).1 = s.setOrigin q.origin ⟨p.generation, some changed⟩ ∧
      (s.apply op).2.value = .params { p with requestBody? := some changed } := by
  have happly := apply_of_change? h s
  simp only [changeObject, hfind, hobject, hchange] at happly
  rw [happly]
  exact ⟨rfl, rfl⟩

theorem target?_of_change? {op : Operation} {name : Text}
    {change : Members → Except Obstacle Members} (h : op.change? = some (name, change)) :
    op.target? = none := by
  cases op <;> first | rfl | cases h

theorem Effect.of_failure {s : Session} {op : Operation} {reply : Reply}
    (happly : s.apply op = (s, .silent reply)) (hfails : reply.isFailure = true) :
    Effect s op (s.apply op).1 := by
  have hstores : ∀ name, s.stores op name = false := stores_of_isFailure (by rwa [happly])
  rw [happly]
  exact .keep s.environment s.lastBody? hstores fun _ => rfl

/-- A change is made, or else the step fails and leaves the session as it is. -/
theorem apply_change_cases {op : Operation} {name : Text}
    {change : Members → Except Obstacle Members} (h : op.change? = some (name, change))
    (s : Session) :
    (∃ q p ms changed, s.find? name = some (q, p) ∧ p.requestBody? = some ms ∧
        change ms = .ok changed) ∨
      ∃ reply, s.apply op = (s, .silent reply) ∧ reply.isFailure = true := by
  have happly := apply_of_change? h s
  cases hfind : s.find? name with
  | none =>
    simp only [changeObject, hfind] at happly
    exact .inr ⟨_, happly, rfl⟩
  | some found =>
    obtain ⟨q, p⟩ := found
    cases hobject : p.requestBody? with
    | none =>
      simp only [changeObject, hfind, hobject] at happly
      exact .inr ⟨_, happly, rfl⟩
    | some ms =>
      cases hchange : change ms with
      | error o =>
        simp only [changeObject, hfind, hobject, hchange] at happly
        exact .inr ⟨_, happly, rfl⟩
      | ok changed => exact .inl ⟨q, p, ms, changed, rfl, hobject, hchange⟩

theorem effect_change {op : Operation} {name : Text} {change : Members → Except Obstacle Members}
    (h : op.change? = some (name, change)) (s : Session) : Effect s op (s.apply op).1 := by
  rcases apply_change_cases h s with ⟨q, p, ms, changed, hfind, hobject, hchange⟩ | ⟨_, hs, hfails⟩
  · obtain ⟨hsession, hreply⟩ := apply_change h hfind hobject hchange
    rw [hsession]
    exact .change h hreply hfind hobject hchange
  · exact .of_failure hs hfails

theorem effect_new (s : Session) (name : Text) (data : Json) :
    Effect s (.new name data) (s.apply (.new name data)).1 := by
  have happly : s.apply (.new name data) = (s.storeData name data).map id .silent := rfl
  cases hcheck : (CompletionParams.check data).toExcept CompletionParams.modelName with
  | error invalid =>
    simp only [storeData, hcheck] at happly
    exact .of_failure happly rfl
  | ok p =>
    simp only [storeData, hcheck] at happly
    have heffect : Effect s (.new name data) (s.storeNew name p) := .new rfl (by rw [happly]; rfl)
    rwa [happly]

theorem effect_copy (s : Session) (name target : Text) (tag? : Option Text) :
    Effect s (.copy name target tag?) (s.apply (.copy name target tag?)).1 := by
  have happly : s.apply (.copy name target tag?) = (s.copy name target tag?).map id .silent := rfl
  cases hfind : s.find? name with
  | none =>
    simp only [copy, hfind] at happly
    exact .of_failure happly rfl
  | some found =>
    obtain ⟨q, p⟩ := found
    cases tag? with
    | none =>
      simp only [copy, hfind] at happly
      have hbackend : q.backend? = p.backend? := by
        obtain ⟨o, -, rfl⟩ := Option.map_eq_some_iff.1 (find?_eq_some_iff.1 hfind).2
        rfl
      have heffect : Effect s (.copy name target none)
          (s.store target { q with backend? := p.backend? }) :=
        .copy rfl (by rw [happly]; rfl) hfind
      rw [happly]
      rwa [← hbackend] at heffect
    | some tag =>
      cases hb : Backend.ofTag? tag with
      | none =>
        simp only [copy, hfind, hb] at happly
        exact .of_failure happly rfl
      | some b =>
        simp only [copy, hfind, hb] at happly
        have heffect : Effect s (.copy name target (some tag))
            (s.store target { q with backend? := some b }) :=
          .copy rfl (by rw [happly]; rfl) hfind
        rwa [happly]

/-- The body that can be built with the parameters under a name. -/
def built? (s : Session) (name prompt : Text) : Option Members :=
  (s.params? name).bind fun p => (Request.body (.text prompt) p).toOption

/-- A body is built and kept if the parameters under the name allow one, and else nothing is. -/
theorem apply_build (s : Session) (name prompt : Text) :
    (s.apply (.build name prompt)).1 =
        { s with lastBody? := (s.built? name prompt).or s.lastBody? } ∧
      ((s.apply (.build name prompt)).2.value.isFailure = true ∧ s.built? name prompt = none ∨
        ∃ b, (s.apply (.build name prompt)).2.value = .body b ∧ s.built? name prompt = some b) := by
  have happly : s.apply (.build name prompt) = s.build name prompt := rfl
  rw [happly, build, built?]
  cases s.params? name with
  | none => exact ⟨rfl, .inl ⟨rfl, rfl⟩⟩
  | some p =>
    simp only [Request.buildBody, Option.bind_some]
    cases Request.body (.text prompt) p with
    | error f => exact ⟨rfl, .inl ⟨rfl, rfl⟩⟩
    | ok b => exact ⟨rfl, .inr ⟨b, rfl, rfl⟩⟩

theorem apply_scribble (s : Session) (name stop : Text) :
    (s.apply (.scribble name stop)).1 =
      { s with lastBody? := s.lastBody?.map (Request.addStop stop) } := by
  have happly : (s.apply (.scribble name stop)).1 = (s.scribble name stop).1 := rfl
  rw [happly, scribble]
  obtain ⟨environment, origins, names, lastBody?⟩ := s
  cases lastBody? <;> rfl

theorem effect_apply (s : Session) (op : Operation) : Effect s op (s.apply op).1 := by
  cases op with
  | setEnvironment unset set =>
    exact .keep _ s.lastBody? (stores_of_target?_eq_none rfl s) fun _ => rfl
  | new name data => exact effect_new s name data
  | assign name field value onGeneration =>
    exact .keep s.environment s.lastBody? (stores_of_target?_eq_none rfl s) fun _ => rfl
  | put name key value => exact effect_change rfl s
  | drop name key => exact effect_change rfl s
  | copy name target tag? => exact effect_copy s name target tag?
  | equal first second =>
    exact .keep s.environment s.lastBody? (stores_of_target?_eq_none rfl s) fun _ => rfl
  | build name prompt =>
    rw [(apply_build s name prompt).1]
    exact .keep s.environment _ (stores_of_target?_eq_none rfl s) fun h => (nomatch h)
  | scribble name stop =>
    rw [apply_scribble]
    exact .keep s.environment _ (stores_of_target?_eq_none rfl s) fun h => (nomatch h)

end Session

end CompletionWire
