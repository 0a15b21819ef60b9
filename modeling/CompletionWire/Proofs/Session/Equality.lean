import CompletionWire.Proofs.Request.Agreement
import CompletionWire.Proofs.Session.Steps
import CompletionWire.Proofs.Validation.Dumps

/-!
# Equality in sessions

Whatever a session is asked to do, no request object in it comes to hold a key twice, as long as no
data that it is given does. So equality is an equivalence on all parameters without NaN that can be
met with in a session, and it does not matter which of two equal parameters a request is built from.
-/

namespace CompletionWire

namespace Session

/-! ### Sessions that can be reached -/

/-- The data that a step brings into a session. -/
def Operation.data? : Operation → Option Json
  | .new _ data => some data
  | .put _ _ value => some value
  | _ => none

/-- A session that starts with nothing stored and is given data in which no object holds a key
twice. -/
inductive Reachable : Session → Prop
  | start (environment : Environment) : Reachable { environment }
  | step {s : Session} (op : Operation) (hs : Reachable s)
      (hdata : ∀ v, op.data? = some v → v.Orderly none) : Reachable (s.apply op).1

/-- In the request objects of a session, no object holds a key twice. -/
def Orderly (s : Session) : Prop :=
  ∀ o ∈ s.origins, ∀ ms, o.requestBody? = some ms → (Json.object ms).Orderly none

theorem orderly_of_check {data : Json} {p : CompletionParams} {ms : Members}
    (hdata : data.Orderly none) (hcheck : CompletionParams.check data = .valid p)
    (hms : p.requestBody? = some ms) : (Json.object ms).Orderly none := by
  obtain ⟨fields, rfl, hbody⟩ := CompletionParams.requestBody_of_check hcheck
  have hgiven := CompletionParams.requestBody_given hbody
  rw [hms] at hgiven
  cases hfind : CompletionParams.requestBodyField.find? fields with
  | none =>
    rw [hfind] at hgiven
    cases hgiven
  | some found =>
    rw [hfind] at hgiven
    have hfound := hdata.member (Field.mem_of_find? hfind)
    rwa [show found.2 = .object ms from hgiven] at hfound

theorem check_of_new {s : Session} {name : Text} {data : Json} {p : CompletionParams}
    (h : (s.apply (.new name data)).2.value = .params p) :
    CompletionParams.check data = .valid p := by
  have happly : s.apply (.new name data) = (s.storeData name data).map id .silent := rfl
  rw [happly, storeData] at h
  cases hcheck : CompletionParams.check data with
  | invalid issues =>
    rw [hcheck] at h
    cases h
  | valid p' =>
    rw [hcheck] at h
    rw [Reply.params.inj h]

/-- A change leaves no key twice in an object that had none twice. -/
theorem orderly_of_change {op : Operation} {name : Text}
    {change : Members → Except Obstacle Members} {ms changed : Members}
    (hop : op.change? = some (name, change)) (hchange : change ms = .ok changed)
    (hdata : ∀ v, op.data? = some v → v.Orderly none) (hms : (Json.object ms).Orderly none) :
    (Json.object changed).Orderly none := by
  cases op with
  | put target key value =>
    obtain ⟨rfl, rfl⟩ := Prod.mk.inj (Option.some.inj hop)
    obtain rfl := Except.ok.inj hchange
    refine .of_members (Json.nodup_put key value hms.keys) fun m hm => ?_
    rcases Json.mem_of_mem_put hm with rfl | hm
    · exact hdata value rfl
    · exact hms.member hm
  | drop target key =>
    obtain ⟨rfl, rfl⟩ := Prod.mk.inj (Option.some.inj hop)
    rw [dropMember] at hchange
    split at hchange
    · obtain rfl := Except.ok.inj hchange
      have hsub : (Members.drop key ms).Sublist ms := List.filter_sublist
      exact .of_members (hms.keys.sublist (hsub.map Prod.fst)) fun m hm =>
        hms.member (hsub.subset hm)
    · cases hchange
  | setEnvironment | new | assign | copy | equal | build | scribble => cases hop

theorem Orderly.params {s : Session} (hs : s.Orderly) {name : Text} {p : CompletionParams}
    (h : s.params? name = some p) : p.Orderly := by
  obtain ⟨q, hfind⟩ := params?_eq_some_iff.1 h
  obtain ⟨o, ho, rfl⟩ := Option.map_eq_some_iff.1 (find?_eq_some_iff.1 hfind).2
  rw [CompletionParams.Orderly, CompletionParams.object]
  cases hms : o.requestBody? with
  | none => exact List.forall_mem_singleton.2 trivial
  | some ms => exact hs o (List.mem_of_getElem? ho) ms hms

theorem Orderly.apply {s : Session} (hs : s.Orderly) {op : Operation}
    (hdata : ∀ v, op.data? = some v → v.Orderly none) : (s.apply op).1.Orderly := by
  have heffect := effect_apply s op
  generalize (s.apply op).1 = s' at heffect
  cases heffect with
  | keep environment lastBody? _ _ => exact hs
  | @new name data p hop hreply =>
    intro o ho ms hms
    rcases List.mem_append.1 ho with ho | ho
    · exact hs o ho ms hms
    · rw [List.mem_singleton.1 ho] at hms
      rw [hop] at hreply hdata
      exact orderly_of_check (hdata data rfl) (check_of_new hreply) hms
  | copy hop hreply hfind => exact hs
  | @change name change q p ms changed hop hreply hfind hobject hchange =>
    have hms : (Json.object ms).Orderly none := by
      have hp := hs.params (params?_eq_some_iff.2 ⟨q, hfind⟩)
      rwa [CompletionParams.Orderly, CompletionParams.object_of_some hobject] at hp
    intro o ho ns hns
    rcases List.mem_or_eq_of_mem_set ho with ho | rfl
    · exact hs o ho ns hns
    · rw [← Option.some.inj hns]
      exact orderly_of_change hop hchange hdata hms

theorem Reachable.orderly {s : Session} (h : s.Reachable) : s.Orderly := by
  induction h with
  | start environment => exact List.forall_mem_nil _
  | step op _ hdata ih => exact ih.apply hdata

/-! ### Answers -/

theorem equal_of_ne {a b : Stored} {p q : CompletionParams} (h : a.origin ≠ b.origin) :
    equal (a, p) (b, q) = p.equals q := by
  rw [equal, decide_eq_false h, Bool.false_or, CompletionParams.equals, Bool.and_assoc,
    CompletionParams.object, CompletionParams.object]
  cases p.requestBody? <;> cases q.requestBody? <;>
    simp [Json.agrees, Json.sameNumber, Json.whole?]

/-- Parameters of one origin are equal if their backends are, which is all that is looked at. -/
theorem equal_of_eq {s : Session} {a b : Stored} {p q : CompletionParams}
    (ha : s.read? a = some p) (hb : s.read? b = some q) (h : a.origin = b.origin)
    (hp : p.Orderly) (hnan : p.HasNoNan) : equal (a, p) (b, q) = p.equals q := by
  obtain ⟨-, hgeneration, hobject⟩ :=
    CompletionParams.equals_iff.1 (CompletionParams.equals_self hp hnan)
  obtain ⟨o, ho, rfl⟩ := Option.map_eq_some_iff.1 ha
  obtain ⟨o', ho', rfl⟩ := Option.map_eq_some_iff.1 hb
  obtain rfl : o = o' := Option.some.inj (ho.symm.trans (h ▸ ho'))
  rw [equal, decide_eq_true h, Bool.true_or, Bool.and_true, CompletionParams.equals, hgeneration,
    Bool.and_true]
  exact ((congrArg _ hobject).trans (Bool.and_true _)).symm

theorem apply_equal {s : Session} {first second : Text} {p q : CompletionParams}
    (hfirst : s.params? first = some p) (hsecond : s.params? second = some q) (hp : p.Orderly)
    (hnan : p.HasNoNan) : (s.apply (.equal first second)).2.value = .equal (p.equals q) := by
  have happly : (s.apply (.equal first second)).2.value = s.compare first second := rfl
  obtain ⟨a, ha⟩ := params?_eq_some_iff.1 hfirst
  obtain ⟨b, hb⟩ := params?_eq_some_iff.1 hsecond
  rw [happly, compare, ha, hb]
  refine congrArg Reply.equal ?_
  by_cases horigin : a.origin = b.origin
  · exact equal_of_eq (find?_eq_some_iff.1 ha).2 (find?_eq_some_iff.1 hb).2 horigin hp hnan
  · exact equal_of_ne horigin

end Session

namespace CompletionParams

/-- Parameters that are stored under a name at some time in some session. -/
def Reachable (p : CompletionParams) : Prop :=
  ∃ (s : Session) (name : Text), s.Reachable ∧ s.params? name = some p

theorem Reachable.orderly {p : CompletionParams} (h : p.Reachable) : p.Orderly := by
  obtain ⟨s, name, hs, hp⟩ := h
  exact hs.orderly.params hp

/-- Equality is an equivalence on the parameters without NaN that can be met with in sessions. It is
what sessions answer, and requests that are built from equal parameters are equal or fail alike. -/
theorem equality_respected {p q r : CompletionParams} (hp : p.Reachable) (hq : q.Reachable)
    (hpnan : p.HasNoNan) (hqnan : q.HasNoNan) :
    p.equals p = true ∧
      (p.equals q = true → q.equals p = true) ∧
      (p.equals q = true → q.equals r = true → p.equals r = true) ∧
      (∀ (s : Session) (first second : Text), s.params? first = some p →
        s.params? second = some q →
        (s.apply (.equal first second)).2.value = .equal (p.equals q)) ∧
      (p.equals q = true → ∀ prompt,
        (∃ backend, (Request.buildBody prompt p).value = .error (.missingModel backend) ∧
            (Request.buildBody prompt q).value = .error (.missingModel backend)) ∨
          ∃ b c, (Request.buildBody prompt p).value = .ok b ∧
            (Request.buildBody prompt q).value = .ok c ∧
            (Json.object b).agrees (.object c) = true) := by
  have hp' := hp.orderly
  have hq' := hq.orderly
  refine ⟨equals_self hp' hpnan, equals_symm hp' hq' hpnan hqnan, equals_trans hp' hq' hpnan hqnan,
    ?_, ?_⟩
  · intro s first second hfirst hsecond
    exact Session.apply_equal hfirst hsecond hp' hpnan
  · intro h prompt
    exact Request.body_of_equals hp' hpnan h prompt

/-- Members in another order, truth and numbers that are equal to one, and a field that is left out:
parameters are equal across all of these, and so are the requests. -/
theorem equality_respected_two_spellings :
    let one : Json := .float (.ofDecimal false 10 (-1))
    let p : CompletionParams :=
      { backend? := some .ollama,
        requestBody? := some [(text "model", .bool true), (text "n", .int 1)] }
    let q : CompletionParams :=
      { backend? := some .ollama, requestBody? := some [(text "n", one), (text "model", one)] }
    p.Reachable ∧ q.Reachable ∧ p.HasNoNan ∧ q.HasNoNan ∧ p.equals q = true ∧
      q.equals p = true ∧
      ∃ b c, (Request.buildBody (.text (text "hi")) p).value = .ok b ∧
        (Request.buildBody (.text (text "hi")) q).value = .ok c ∧
        (Json.object b).agrees (.object c) = true := by
  intro one p q
  have hp : p.Reachable := by
    let data : Json := .object [(text "adaptor", .string (text "ollama")),
      (text "request_body", .object [(text "model", .bool true), (text "n", .int 1)])]
    have hdata : data.Orderly none := by
      unfold data
      decide
    refine ⟨_, text "a", .step (.new (text "a") data) (.start []) fun v hv => ?_, ?_⟩
    · rwa [← Option.some.inj hv]
    · rfl
  have hq : q.Reachable := by
    let data : Json := .object [(text "backend", .string (text "ollama")),
      (text "requestBody", .object [(text "n", one), (text "model", one)]),
      (text "generation_params", .object [(text "maxNewTokens", .int 60)])]
    have hdata : data.Orderly none := by
      unfold data one
      decide
    refine ⟨_, text "b", .step (.new (text "b") data) (.start []) fun v hv => ?_, ?_⟩
    · rwa [← Option.some.inj hv]
    · rfl
  have hpnan : p.HasNoNan := by
    refine ⟨GenerationParams.hasNoNan_default, ?_⟩
    simp [p, object, Json.HasNoNan, Json.parts, Json.membersParts]
  have hqnan : q.HasNoNan := by
    refine ⟨GenerationParams.hasNoNan_default, ?_⟩
    simp [q, one, object, Json.HasNoNan, Json.parts, Json.membersParts, Binary64.ofDecimal_ne_nan]
  have hequal : p.equals q = true := by
    have hobject : p.object.agrees q.object = true := by
      unfold p q one
      decide
    exact equals_iff.2 ⟨rfl, GenerationParams.equals_self hpnan.generation, hobject⟩
  obtain ⟨-, hsymm, -, -, hbodies⟩ :=
    equality_respected (p := p) (q := q) (r := p) hp hq hpnan hqnan
  refine ⟨hp, hq, hpnan, hqnan, hequal, hsymm hequal, ?_⟩
  rcases hbodies hequal (.text (text "hi")) with ⟨backend, hfails, -⟩ | hbuilt
  · cases hfails
  · exact hbuilt

end CompletionParams

end CompletionWire
