import CompletionWire.Proofs.Response.Failures
import CompletionWire.Proofs.Response.RoundTrip

/-!
# What a refused response gives away

A response that is refused, with no error of the backend in it, shows in what it causes by its size
and by one clue: that it has no known shape, how many items stand in an array where a single
generation should be, or what the reader of JSON finds wrong and where. The failure and the events
are computed from the two, so texts of one size and with one clue cannot be told apart, and the
failure alone does not even depend on more than the kind of the clue.
-/

namespace CompletionWire

theorem Logged.silent_andThen {α β : Type} (a : α) (f : α → Logged β) :
    (silent a).andThen f = f a :=
  rfl

namespace Response

/-- What a refused response shows apart from its size. -/
inductive Clue
  | shape
  | items (count : Nat)
  | fault (f : Json.Fault Json.Place)

def Clue.refusal (backend : Backend) (size : Nat) : Clue → Logged (Except Mishap (List Generation))
  | shape => .silent (.error (.failure (.unexpectedShape backend size none)))
  | items count =>
    ⟨[.listOfGenerations count], .error (.failure (.listOfGenerations backend size))⟩
  | fault f =>
    ⟨[.notJson backend size (f.message rules)],
      .error (.failure (.malformedResponse backend size))⟩

/-- The clue that a text holds for a backend. -/
inductive Shows (backend : Backend) (t : Text) : Clue → Prop
  | shape {v : Json} (hread : Json.read rules t = .ok v) (hreply : Reply.of? backend v = none) :
      Shows backend t .shape
  | items {items : List Json} {gs : List Generation} (htgi : backend = .tgi)
      (hread : Json.read rules t = .ok (.array items))
      (hreply : Reply.of? backend (.array items) = some (.array gs))
      (hlength : gs.length = items.length) : Shows backend t (.items items.length)
  | fault {f : Json.Fault Json.Place} (hread : Json.read rules t = .error f)
      (hdepth : f ≠ .tooDeep) : Shows backend t (.fault f)

/-! ### A refusal by its clue -/

theorem load_of_read {t : Text} {v : Json} (h : Json.read rules t = .ok v) (backend : Backend) :
    load backend t = .silent (.ok v) := by
  rw [load, h]

theorem load_of_fault {t : Text} {f : Json.Fault Json.Place} (h : Json.read rules t = .error f)
    (hdepth : f ≠ .tooDeep) (backend : Backend) :
    load backend t =
      ⟨[.notJson backend (payloadSize t) (f.message rules)],
        .error (.failure (.malformedResponse backend (payloadSize t)))⟩ := by
  rw [load, h]
  cases f with
  | tooDeep => exact absurd rfl hdepth
  | malformed | tooManyDigits | constant => rfl

theorem read_of_shows {selected? : Option Backend} {t : Text} {c : Clue}
    (h : Shows (Backend.resolve selected?) t c) :
    read selected? t = c.refusal (Backend.resolve selected?) (payloadSize t) := by
  cases h with
  | shape hread hreply =>
    simp only [read, load_of_read hread, Logged.silent_andThen, classify, hreply, Clue.refusal]
  | items htgi hread hreply hlength =>
    simp only [read, load_of_read hread, Logged.silent_andThen, classify, hreply, Reply.outcome,
      if_pos htgi, hlength]
    rfl
  | fault hread hdepth =>
    simp only [read, load_of_fault hread hdepth]
    rfl

/-! ### Every refusal has a clue -/

theorem reports_of_reply {backend : Backend} {v : Json} {f : Failure}
    (h : Reply.of? backend v = some (.failure f)) : Reports backend f := by
  have hrow {g : Failure} (hg : g = f) (hreports : Reports backend g) : Reports backend f :=
    hg ▸ hreports
  cases backend with
  | huggingFace =>
    simp only [Reply.of?, Reply.ofTextGeneration?, Option.or_eq_some_iff, Option.map_eq_some_iff,
      reduceCtorEq, and_false, exists_false, false_or, Reply.failure.injEq] at h
    obtain ⟨-, -, e, -, he⟩ := h
    exact hrow he (.huggingFace _)
  | tgi =>
    simp only [Reply.of?, Reply.ofTextGeneration?, Option.or_eq_some_iff, Option.map_eq_some_iff,
      reduceCtorEq, and_false, exists_false, false_or, Reply.failure.injEq] at h
    obtain ⟨-, -, e, -, he⟩ := h
    exact hrow he (.tgi _)
  | ollama =>
    simp only [Reply.of?, Reply.ofOllama?, Option.or_eq_some_iff, Option.map_eq_some_iff,
      reduceCtorEq, and_false, exists_false, false_or, Reply.failure.injEq] at h
    obtain ⟨-, e, -, he⟩ := h
    exact hrow he (.ollama _)
  | openAi =>
    simp only [Reply.of?, Reply.ofOpenAi?, Option.or_eq_some_iff, Option.map_eq_some_iff,
      reduceCtorEq, and_false, exists_false, false_or, Reply.failure.injEq] at h
    obtain ⟨-, r, -, he⟩ := h
    exact hrow he (.openAi _)

theorem exists_items_of_reply {backend : Backend} {v : Json} {gs : List Generation}
    (h : Reply.of? backend v = some (.array gs)) :
    ∃ items, v = .array items ∧ gs.length = items.length := by
  have harray {report : Text → Failure}
      (h : Reply.ofTextGeneration? report v = some (.array gs)) :
      Scalar.array .listType Generation.check v = .valid gs := by
    simp only [Reply.ofTextGeneration?, Option.or_eq_some_iff, Option.map_eq_some_iff,
      reduceCtorEq, and_false, exists_false, false_or, or_false, Reply.array.injEq] at h
    obtain ⟨-, gs', hvalid, rfl⟩ := h
    cases hcheck : Scalar.array .listType Generation.check v with
    | valid found =>
      rw [hcheck] at hvalid
      exact congrArg _ (Option.some.inj hvalid)
    | invalid issues =>
      rw [hcheck] at hvalid
      cases hvalid
  have hitems (h : Scalar.array .listType Generation.check v = .valid gs) :
      ∃ items, v = .array items ∧ gs.length = items.length := by
    obtain ⟨items, rfl, hholds⟩ := generations_check_eq_valid_iff.1 h
    exact ⟨items, rfl, hholds.length_eq.symm⟩
  cases backend with
  | huggingFace => exact hitems (harray h)
  | tgi => exact hitems (harray h)
  | ollama =>
    simp [Reply.of?, Reply.ofOllama?, Option.or_eq_some_iff] at h
  | openAi =>
    simp [Reply.of?, Reply.ofOpenAi?, Option.or_eq_some_iff] at h

/-- A failure that is not the backend's own report has a clue behind it. -/
theorem exists_shows_of_failure {selected? : Option Backend} {t : Text} {f : Failure}
    (h : (read selected? t).value = .error (.failure f))
    (hown : ∀ backend, ¬ Reports backend f) :
    ∃ c, Shows (Backend.resolve selected?) t c := by
  cases hread : Json.read rules t with
  | error fault =>
    refine ⟨.fault fault, .fault hread fun hdeep => ?_⟩
    subst hdeep
    simp [read, load, hread, Logged.andThen, Logged.silent] at h
  | ok v =>
    cases hreply : Reply.of? (Backend.resolve selected?) v with
    | none => exact ⟨.shape, .shape hread hreply⟩
    | some reply =>
      have hvalue : (reply.outcome (Backend.resolve selected?) (payloadSize t)).value.mapError
          Mishap.failure = .error (.failure f) := by
        rw [← h, read_value_of_load (congrArg Logged.value (load_of_read hread _)), classify,
          hreply]
      cases reply with
      | generations gs => cases hvalue
      | failure g =>
        cases hvalue
        exact absurd (reports_of_reply hreply) (hown _)
      | array gs =>
        obtain ⟨items, rfl, hlength⟩ := exists_items_of_reply hreply
        by_cases htgi : Backend.resolve selected? = .tgi
        · exact ⟨.items items.length, .items htgi hread hreply hlength⟩
        · rw [Reply.outcome, if_neg htgi] at hvalue
          cases hvalue

/-! ### Two responses of one size -/

/-- The response has none of the known shapes. -/
def IsUnexpected (r : Logged (Except Mishap (List Generation))) : Prop :=
  ∃ backend size message?, r.value = .error (.failure (.unexpectedShape backend size message?))

/-- The response is a list of generations where there should be a single one. -/
def IsMisplaced (r : Logged (Except Mishap (List Generation))) : Prop :=
  ∃ backend size, r.value = .error (.failure (.listOfGenerations backend size))

def IsMalformed (r : Logged (Except Mishap (List Generation))) : Prop :=
  ∃ backend size, r.value = .error (.failure (.malformedResponse backend size))

theorem shows_of_isUnexpected {selected? : Option Backend} {t : Text}
    (h : IsUnexpected (read selected? t)) : Shows (Backend.resolve selected?) t .shape := by
  obtain ⟨backend, size, message?, hvalue⟩ := h
  obtain ⟨c, hc⟩ := exists_shows_of_failure hvalue fun _ hown => by cases hown
  rw [read_of_shows hc] at hvalue
  cases c with
  | shape => exact hc
  | items | fault => cases hvalue

theorem shows_of_isMisplaced {selected? : Option Backend} {t : Text}
    (h : IsMisplaced (read selected? t)) :
    ∃ items, Json.read rules t = .ok (.array items) ∧
      Shows (Backend.resolve selected?) t (.items items.length) := by
  obtain ⟨backend, size, hvalue⟩ := h
  obtain ⟨c, hc⟩ := exists_shows_of_failure hvalue fun _ hown => by cases hown
  rw [read_of_shows hc] at hvalue
  cases hc with
  | items htgi hread hreply hlength => exact ⟨_, hread, .items htgi hread hreply hlength⟩
  | shape | fault => cases hvalue

theorem shows_of_isMalformed {selected? : Option Backend} {t : Text}
    (h : IsMalformed (read selected? t)) :
    ∃ f, Json.read rules t = .error f ∧ Shows (Backend.resolve selected?) t (.fault f) := by
  obtain ⟨backend, size, hvalue⟩ := h
  obtain ⟨c, hc⟩ := exists_shows_of_failure hvalue fun _ hown => by cases hown
  rw [read_of_shows hc] at hvalue
  cases hc with
  | fault hread hdepth => exact ⟨_, hread, .fault hread hdepth⟩
  | shape | items => cases hvalue

/-- Two refused responses of one size cannot be told apart by their failures, and hardly by their
events. Where neither has a known shape, nothing differs. Where both are lists in the place of one
generation, events differ in the numbers of items alone. Where neither is JSON, they differ in what
is wrong alone, worded from the fault that the reader finds: nothing differs if the faults agree in
their kind, and in their place, count or constant. -/
theorem read_discloses (selected? : Option Backend) (t u : Text)
    (hsize : payloadSize t = payloadSize u) :
    let backend := Backend.resolve selected?
    let size := payloadSize t
    (IsUnexpected (read selected? t) → IsUnexpected (read selected? u) →
      read selected? t = read selected? u) ∧
    (IsMisplaced (read selected? t) → IsMisplaced (read selected? u) →
      (read selected? t).value = (read selected? u).value ∧
      ∃ items items', Json.read rules t = .ok (.array items) ∧
        Json.read rules u = .ok (.array items') ∧
        (read selected? t).events = [.listOfGenerations items.length] ∧
        (read selected? u).events = [.listOfGenerations items'.length]) ∧
    (IsMalformed (read selected? t) → IsMalformed (read selected? u) →
      (read selected? t).value = (read selected? u).value ∧
      ∃ f f', Json.read rules t = .error f ∧ Json.read rules u = .error f' ∧
        (read selected? t).events = [.notJson backend size (f.message rules)] ∧
        (read selected? u).events = [.notJson backend size (f'.message rules)] ∧
        (f = f' → read selected? t = read selected? u)) := by
  intro backend size
  refine ⟨fun ht hu => ?_, fun ht hu => ?_, fun ht hu => ?_⟩
  · rw [read_of_shows (shows_of_isUnexpected ht), read_of_shows (shows_of_isUnexpected hu), hsize]
  · obtain ⟨items, hread, hitems⟩ := shows_of_isMisplaced ht
    obtain ⟨items', hread', hitems'⟩ := shows_of_isMisplaced hu
    rw [read_of_shows hitems, read_of_shows hitems', hsize]
    exact ⟨rfl, items, items', hread, hread', rfl, rfl⟩
  · obtain ⟨f, hread, hf⟩ := shows_of_isMalformed ht
    obtain ⟨f', hread', hf'⟩ := shows_of_isMalformed hu
    rw [read_of_shows hf, read_of_shows hf', ← hsize]
    exact ⟨rfl, f, f', hread, hread', rfl, rfl, fun heq => by rw [heq]⟩

/-- One long text and two empty ones, as what has no known shape and as a list in the place of one
generation, and a name and a constant where a value should be. -/
theorem read_discloses_no_content :
    let generations (ts : List String) : Json :=
      .array (ts.map fun t => Generation.toJson ⟨text t⟩)
    let one := (generations ["what a user has hidden"]).write .compact
    let two := (generations ["", ""]).write .compact
    read (some .openAi) one = read (some .openAi) two ∧
    (read (some .tgi) one).value = (read (some .tgi) two).value ∧
    (read (some .ollama) (text "[key]")).value = (read (some .ollama) (text "[NaN]")).value := by
  intro generations one two
  have hload (backend : Backend) (ts : List String) :
      (load backend ((generations ts).write .compact)).value = .ok (generations ts) := by
    have hplain : (generations ts).WellFormed 4300 :=
      .of_items (List.forall_mem_map.2 fun t _ =>
        .of_members (List.pairwise_singleton _ _)
          (List.forall_mem_singleton.2 (List.forall_mem_singleton.2 trivial)))
    have hdepth : (generations ts).depth ≤ 2 :=
      Nat.succ_le_succ (Json.itemsDepth_le (List.forall_mem_map.2 fun t _ => Nat.le_refl 1))
    exact (load_written backend hplain (hdepth.trans (by decide))).2.2.2.1
  have hunexpected {ts : List String} (h : ∀ n, (classify .openAi n (generations ts)).value =
      .error (.unexpectedShape .openAi n none)) :
      IsUnexpected (read (some .openAi) ((generations ts).write .compact)) :=
    ⟨_, _, _, (read_value_of_load (hload _ ts)).trans (congrArg _ (h _))⟩
  have hmisplaced {ts : List String} (h : ∀ n, (classify .tgi n (generations ts)).value =
      .error (.listOfGenerations .tgi n)) :
      IsMisplaced (read (some .tgi) ((generations ts).write .compact)) :=
    ⟨_, _, (read_value_of_load (hload _ ts)).trans (congrArg _ (h _))⟩
  have hsize : payloadSize one = payloadSize two := by decide
  have hshape := (read_discloses (some .openAi) one two hsize).1
    (hunexpected fun _ => rfl) (hunexpected fun _ => rfl)
  have hitems := (read_discloses (some .tgi) one two hsize).2.1
    (hmisplaced fun _ => rfl) (hmisplaced fun _ => rfl)
  have hfault := (read_discloses (some .ollama) (text "[key]") (text "[NaN]") (by decide)).2.2
    ⟨.ollama, 5, read_value_of_load_error (by rfl)⟩
    ⟨.ollama, 5, read_value_of_load_error (by rfl)⟩
  exact ⟨hshape, hitems.1, hfault.1⟩

end Response

end CompletionWire
