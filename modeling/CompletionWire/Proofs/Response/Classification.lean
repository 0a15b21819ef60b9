import CompletionWire.Proofs.Validation.Checked
import CompletionWire.Response.Generations

/-!
# The table of responses

What a response means is laid down in a table for each backend: rows of shapes with their outcomes,
of which the first one that fits counts, and an outcome for values that no row fits. Shapes are
described by relations between values and what they hold, without any reference to checks; reading
a response is shown to give exactly the outcome of the table.
-/

namespace CompletionWire

namespace Json

/-- An object with a string under a key. -/
def HasText (key : Text) (v : Json) (t : Text) : Prop :=
  ∃ members : Members, v = .object members ∧ members.find? key = some (.string t)

/-- An array whose items hold `xs`, item by item. -/
def IsArrayOf {α : Type} (holds : Json → α → Prop) (v : Json) (xs : List α) : Prop :=
  ∃ items, v = .array items ∧ List.Forall₂ holds items xs

/-- An object with an array under a key, whose items hold `xs`. -/
def HasArrayOf {α : Type} (key : Text) (holds : Json → α → Prop) (v : Json) (xs : List α) : Prop :=
  ∃ (members : Members) (w : Json),
    v = .object members ∧ members.find? key = some w ∧ IsArrayOf holds w xs

end Json

namespace Response

/-- A generation is an object with its text under a key. -/
def HoldsGeneration (key : Text) (v : Json) (g : Generation) : Prop :=
  v.HasText key g.generatedText

/-- A place is a string or a whole number from zero on; no other value is one. -/
inductive HoldsLocation : Json → Location → Prop
  | name (t : Text) : HoldsLocation (.string t) (.name t)
  | index (i : Nat) : HoldsLocation (.int i) (.index i)

/-- An entry of an error list, each of its three fields under the name on the wire or, if nothing
stands there, under its own. -/
def HoldsDetail (v : Json) (d : ErrorDetail) : Prop :=
  ∃ members : Members, v = .object members ∧
    (∃ w, members.Gives (text "loc") (text "location") w ∧ HoldsLocation w d.location) ∧
    members.Gives (text "msg") (text "message") (.string d.message) ∧
    members.Gives (text "type") (text "kind") (.string d.kind)

abbrev Outcome := Except Failure (List Generation)

/-! ### Rows -/

/-- A row says which values it fits, and with which outcome. -/
abbrev Row := Json → Outcome → Prop

namespace Row

def one (key : String) : Row := fun v r => ∃ g, HoldsGeneration (text key) v g ∧ r = .ok [g]

def many (key : String) : Row := fun v r =>
  ∃ gs, v.IsArrayOf (HoldsGeneration (text key)) gs ∧ r = .ok gs

/-- An array of generations where there should be a single one. -/
def misplaced (key : String) (f : Failure) : Row := fun v r =>
  ∃ gs, v.IsArrayOf (HoldsGeneration (text key)) gs ∧ r = .error f

def failure (key : String) (report : Text → Failure) : Row := fun v r =>
  ∃ e, v.HasText (text key) e ∧ r = .error (report e)

/-- Generations in an array under a key. -/
def choices (outer inner : String) : Row := fun v r =>
  ∃ gs, v.HasArrayOf (text outer) (HoldsGeneration (text inner)) gs ∧ r = .ok gs

def details (key : String) : Row := fun v r =>
  ∃ ds, v.HasArrayOf (text key) HoldsDetail ds ∧ r = .error (.openAi ds)

end Row

/-- The rows of a backend, in the order in which they are tried. -/
def table (size : Nat) : Backend → List Row
  | .huggingFace =>
    [.one "generated_text", .many "generated_text", .failure "error" .inferenceApi]
  | .tgi =>
    [.one "generated_text", .misplaced "generated_text" (.listOfGenerations .tgi size),
      .failure "error" .tgi]
  | .ollama => [.one "response", .failure "error" .ollama]
  | .openAi => [.choices "choices" "text", .details "detail"]

/-- The outcome of the first row that fits, or else the one for values that no row fits. -/
inductive FirstFit (otherwise : Outcome) : List Row → Json → Outcome → Prop
  | here {row : Row} {rows : List Row} {v : Json} {r : Outcome} (h : row v r) :
      FirstFit otherwise (row :: rows) v r
  | later {row : Row} {rows : List Row} {v : Json} {r : Outcome} (hrow : ∀ r', ¬ row v r')
      (h : FirstFit otherwise rows v r) : FirstFit otherwise (row :: rows) v r
  | none {v : Json} : FirstFit otherwise [] v otherwise

/-- Trying options one after the other finds what the first fitting row says, if each option is one
row tried on the value. -/
theorem firstFit_iff_findSome? {otherwise : Outcome} {rows : List Row} {v : Json}
    {tries : List (Option Outcome)}
    (h : List.Forall₂ (fun o row => ∀ r, o = some r ↔ row v r) tries rows) (r : Outcome) :
    FirstFit otherwise rows v r ↔ (tries.findSome? id).getD otherwise = r := by
  induction h with
  | nil =>
    constructor
    · intro h
      cases h
      rfl
    · intro heq
      subst heq
      exact .none
  | @cons o row tries rows hrow _ ih =>
    cases o with
    | none =>
      have hnot : ∀ r', ¬ row v r' := by
        intro r' hr'
        cases (hrow r').mpr hr'
      simp only [List.findSome?_cons, id]
      rw [← ih]
      constructor
      · intro h
        cases h with
        | here h => exact absurd h (hnot r)
        | later _ h => exact h
      · exact .later hnot
    | some found =>
      simp only [List.findSome?_cons, id, Option.getD_some]
      constructor
      · intro h
        cases h with
        | here h => exact Option.some.inj ((hrow r).mpr h)
        | later hnot _ => exact absurd ((hrow found).mp rfl) (hnot found)
      · intro heq
        subst heq
        exact .here ((hrow found).mp rfl)

/-! ### Checks and rows -/

theorem textModel_eq_valid_iff {α : Type} {make : Text → α} {key name : Text} {v : Json} {a : α} :
    ((Scalar.model name v).andThen fun members =>
        make <$> Field.required ⟨key, key⟩ Scalar.string members) = .valid a ↔
      ∃ t, v.HasText key t ∧ make t = a := by
  simp only [Checked.andThen_eq_valid_iff, Scalar.model_eq_valid_iff, Checked.map_eq_valid_iff,
    Field.required_eq_valid_iff, Members.gives_self_iff, Scalar.string_eq_valid_iff, Json.HasText]
  grind

theorem generation_check_eq_valid_iff {v : Json} {g : Generation} :
    Generation.check v = .valid g ↔ HoldsGeneration (text "generated_text") v g := by
  refine textModel_eq_valid_iff.trans ⟨?_, fun h => ⟨_, h, rfl⟩⟩
  intro hx
  obtain ⟨t, h, rfl⟩ := hx
  exact h

theorem errorReply_check_eq_valid_iff {v : Json} {e : ErrorReply} :
    ErrorReply.check v = .valid e ↔ v.HasText (text "error") e.error := by
  refine textModel_eq_valid_iff.trans ⟨?_, fun h => ⟨_, h, rfl⟩⟩
  intro hx
  obtain ⟨t, h, rfl⟩ := hx
  exact h

theorem ollamaReply_check_eq_valid_iff {v : Json} {r : OllamaReply} :
    OllamaReply.check v = .valid r ↔ v.HasText (text "response") r.response := by
  refine textModel_eq_valid_iff.trans ⟨?_, fun h => ⟨_, h, rfl⟩⟩
  intro hx
  obtain ⟨t, h, rfl⟩ := hx
  exact h

theorem choice_check_eq_valid_iff {v : Json} {c : Choice} :
    Choice.check v = .valid c ↔ v.HasText (text "text") c.text := by
  refine textModel_eq_valid_iff.trans ⟨?_, fun h => ⟨_, h, rfl⟩⟩
  intro hx
  obtain ⟨t, h, rfl⟩ := hx
  exact h

theorem location_check_eq_valid_iff {v : Json} {l : Location} :
    Location.check v = .valid l ↔ HoldsLocation v l := by
  constructor
  · intro h
    match v, h with
    | .string t, h =>
      cases h
      exact .name t
    | .int (.ofNat i), h =>
      cases h
      exact .index i
  · intro hx
    rcases hx with t | i <;> rfl

theorem errorDetail_check_eq_valid_iff {v : Json} {d : ErrorDetail} :
    ErrorDetail.check v = .valid d ↔ HoldsDetail v d := by
  simp only [ErrorDetail.check, Checked.andThen_eq_valid_iff, Scalar.model_eq_valid_iff,
    Checked.seq_eq_valid_iff, Checked.map_eq_valid_iff, Field.required_eq_valid_iff,
    Scalar.string_eq_valid_iff, location_check_eq_valid_iff, HoldsDetail,
    ErrorDetail.locationField, ErrorDetail.messageField, ErrorDetail.kindField]
  constructor
  · intro h
    obtain ⟨members, hv, f, kind, hf, hkind, rfl⟩ := h
    obtain ⟨g, message, ⟨location, hlocation, rfl⟩, hmessage, rfl⟩ := hf
    obtain ⟨w, hw, rfl⟩ := hmessage
    obtain ⟨w', hw', rfl⟩ := hkind
    exact ⟨members, hv, hlocation, hw, hw'⟩
  · intro h
    obtain ⟨members, hv, hlocation, hmessage, hkind⟩ := h
    exact ⟨members, hv, _, d.kind, ⟨_, d.message, ⟨d.location, hlocation, rfl⟩,
      ⟨_, hmessage, rfl⟩, rfl⟩, ⟨_, hkind, rfl⟩, rfl⟩

theorem generations_check_eq_valid_iff {v : Json} {gs : List Generation} :
    Scalar.array .listType Generation.check v = .valid gs ↔
      v.IsArrayOf (HoldsGeneration (text "generated_text")) gs := by
  simp only [Scalar.array_eq_valid_iff, generation_check_eq_valid_iff, Json.IsArrayOf]

theorem choicesReply_check_iff {v : Json} {gs : List Generation} :
    (∃ r, ChoicesReply.check v = .valid r ∧ gs = r.choices.map fun c => ⟨c.text⟩) ↔
      v.HasArrayOf (text "choices") (HoldsGeneration (text "text")) gs := by
  simp only [ChoicesReply.check, Checked.andThen_eq_valid_iff, Scalar.model_eq_valid_iff,
    Checked.map_eq_valid_iff, Field.required_eq_valid_iff, ChoicesReply.choicesField,
    Members.gives_self_iff, Scalar.array_eq_valid_iff, choice_check_eq_valid_iff, Json.HasArrayOf,
    Json.IsArrayOf]
  constructor
  · intro h
    obtain ⟨r, ⟨members, hv, cs, ⟨w, hw, items, hitems, hcs⟩, rfl⟩, rfl⟩ := h
    exact ⟨members, w, hv, hw, items, hitems, List.forall₂_map_right_iff.mpr hcs⟩
  · intro h
    obtain ⟨members, w, hv, hw, items, hitems, hgs⟩ := h
    refine ⟨⟨gs.map fun g => ⟨g.generatedText⟩⟩,
      ⟨members, hv, _, ⟨w, hw, items, hitems, List.forall₂_map_right_iff.mpr hgs⟩, rfl⟩, ?_⟩
    rw [List.map_map]
    exact (List.map_id'' (fun _ => rfl) gs).symm

theorem detailReply_check_eq_valid_iff {v : Json} {r : DetailReply} :
    DetailReply.check v = .valid r ↔ v.HasArrayOf (text "detail") HoldsDetail r.detail := by
  simp only [DetailReply.check, Checked.andThen_eq_valid_iff, Scalar.model_eq_valid_iff,
    Checked.map_eq_valid_iff, Field.required_eq_valid_iff, DetailReply.detailField,
    Members.gives_self_iff, Scalar.array_eq_valid_iff, errorDetail_check_eq_valid_iff,
    Json.HasArrayOf, Json.IsArrayOf]
  constructor
  · intro h
    obtain ⟨members, hv, ds, ⟨w, hw, items, hitems, hds⟩, rfl⟩ := h
    exact ⟨members, w, hv, hw, items, hitems, hds⟩
  · intro h
    obtain ⟨members, w, hv, hw, items, hitems, hds⟩ := h
    exact ⟨members, hv, r.detail, ⟨w, hw, items, hitems, hds⟩, rfl⟩

/-! ### Reading by the table -/

/-- What the shapes of a backend make of a value, one option for each row of its table. -/
def tries (size : Nat) (v : Json) : Backend → List (Option Outcome)
  | .huggingFace =>
    [(Generation.check v).toOption.map fun g => .ok [g],
      (Scalar.array .listType Generation.check v).toOption.map .ok,
      (ErrorReply.check v).toOption.map fun e => .error (.inferenceApi e.error)]
  | .tgi =>
    [(Generation.check v).toOption.map fun g => .ok [g],
      (Scalar.array .listType Generation.check v).toOption.map fun _ =>
        .error (.listOfGenerations .tgi size),
      (ErrorReply.check v).toOption.map fun e => .error (.tgi e.error)]
  | .ollama =>
    [(OllamaReply.check v).toOption.map fun r => .ok [⟨r.response⟩],
      (ErrorReply.check v).toOption.map fun e => .error (.ollama e.error)]
  | .openAi =>
    [(ChoicesReply.check v).toOption.map fun r => .ok (r.choices.map fun c => ⟨c.text⟩),
      (DetailReply.check v).toOption.map fun r => .error (.openAi r.detail)]

/-- An option that comes from a check is a row if the check finds what the row describes. -/
theorem toOption_map_eq_some_iff {α : Type} {x : Checked α} {f : α → Outcome} {r : Outcome} :
    x.toOption.map f = some r ↔ ∃ a, x = .valid a ∧ r = f a := by
  cases x <;> simp [Checked.toOption, eq_comm]

theorem forall₂_tries_table (size : Nat) (backend : Backend) (v : Json) :
    List.Forall₂ (fun o row => ∀ r, o = some r ↔ row v r) (tries size v backend)
      (table size backend) := by
  have hone : ∀ r, (Generation.check v).toOption.map (fun g => (.ok [g] : Outcome)) = some r ↔
      Row.one "generated_text" v r := by
    intro r
    simp only [toOption_map_eq_some_iff, generation_check_eq_valid_iff, Row.one]
  have hfailure : ∀ (report : Text → Failure) r,
      (ErrorReply.check v).toOption.map (fun e => (.error (report e.error) : Outcome)) = some r ↔
        Row.failure "error" report v r := by
    intro report r
    simp only [toOption_map_eq_some_iff, errorReply_check_eq_valid_iff, Row.failure]
    constructor
    · intro h
      obtain ⟨e, he, rfl⟩ := h
      exact ⟨e.error, he, rfl⟩
    · intro h
      obtain ⟨e, he, rfl⟩ := h
      exact ⟨⟨e⟩, he, rfl⟩
  cases backend with
  | huggingFace =>
    refine .cons hone (.cons (fun r => ?_) (.cons (hfailure .inferenceApi) .nil))
    simp only [toOption_map_eq_some_iff, generations_check_eq_valid_iff, Row.many]
  | tgi =>
    refine .cons hone (.cons (fun r => ?_) (.cons (hfailure .tgi) .nil))
    simp only [toOption_map_eq_some_iff, generations_check_eq_valid_iff, Row.misplaced]
  | ollama =>
    refine .cons (fun r => ?_) (.cons (hfailure .ollama) .nil)
    simp only [toOption_map_eq_some_iff, ollamaReply_check_eq_valid_iff, Row.one, HoldsGeneration]
    constructor
    · intro h
      obtain ⟨a, ha, rfl⟩ := h
      exact ⟨⟨a.response⟩, ha, rfl⟩
    · intro h
      obtain ⟨g, hg, rfl⟩ := h
      exact ⟨⟨g.generatedText⟩, hg, rfl⟩
  | openAi =>
    refine .cons (fun r => ?_) (.cons (fun r => ?_) .nil)
    · simp only [toOption_map_eq_some_iff, Row.choices, ← choicesReply_check_iff]
      grind
    · simp only [toOption_map_eq_some_iff, detailReply_check_eq_valid_iff, Row.details]
      constructor
      · intro h
        obtain ⟨d, hd, rfl⟩ := h
        exact ⟨d.detail, hd, rfl⟩
      · intro h
        obtain ⟨ds, hds, rfl⟩ := h
        exact ⟨⟨ds⟩, hds, rfl⟩

theorem classify_value (size : Nat) (backend : Backend) (v : Json) :
    (classify backend size v).value =
      ((tries size v backend).findSome? id).getD (.error (.unexpectedShape backend size none)) := by
  cases backend with
  | huggingFace =>
    simp only [classify, Reply.of?, Reply.ofTextGeneration?, tries, List.findSome?_cons, id]
    cases (Generation.check v).toOption <;>
      cases (Scalar.array .listType Generation.check v).toOption <;>
      cases (ErrorReply.check v).toOption <;> rfl
  | tgi =>
    simp only [classify, Reply.of?, Reply.ofTextGeneration?, tries, List.findSome?_cons, id]
    cases (Generation.check v).toOption <;>
      cases (Scalar.array .listType Generation.check v).toOption <;>
      cases (ErrorReply.check v).toOption <;> rfl
  | ollama =>
    simp only [classify, Reply.of?, Reply.ofOllama?, tries, List.findSome?_cons, id]
    cases (OllamaReply.check v).toOption <;> cases (ErrorReply.check v).toOption <;> rfl
  | openAi =>
    simp only [classify, Reply.of?, Reply.ofOpenAi?, tries, List.findSome?_cons, id]
    cases (ChoicesReply.check v).toOption <;> cases (DetailReply.check v).toOption <;> rfl

theorem firstFit_iff_classify (size : Nat) (backend : Backend) (v : Json) (r : Outcome) :
    FirstFit (.error (.unexpectedShape backend size none)) (table size backend) v r ↔
      (classify backend size v).value = r := by
  rw [classify_value]
  exact firstFit_iff_findSome? (forall₂_tries_table size backend v) r

theorem read_value_of_load {selected? : Option Backend} {t : Text} {v : Json}
    (h : (load (Backend.resolve selected?) t).value = .ok v) :
    (read selected? t).value =
      (classify (Backend.resolve selected?) (payloadSize t) v).value.mapError Mishap.failure := by
  simp only [read, Logged.andThen, h]
  cases (classify (Backend.resolve selected?) (payloadSize t) v).value <;> rfl

/-- A text that holds a JSON value is read by the table of its backend: the outcome is that of the
first row that fits the value, and no other. -/
theorem read_value_iff_firstFit {selected? : Option Backend} {t : Text} {v : Json}
    (h : (load (Backend.resolve selected?) t).value = .ok v) (r : Outcome) :
    let backend := Backend.resolve selected?
    let size := payloadSize t
    (read selected? t).value = r.mapError Mishap.failure ↔
      FirstFit (.error (.unexpectedShape backend size none)) (table size backend) v r := by
  intro backend size
  have hinj : ∀ a b : Outcome, a.mapError Mishap.failure = b.mapError Mishap.failure → a = b := by
    intro a b hab
    cases a <;> cases b <;> simp_all [Except.mapError]
  rw [read_value_of_load h, firstFit_iff_classify]
  exact ⟨hinj _ _, fun hr => by rw [hr]⟩

/-- An array without items is an array of generations, which is the failure of a misplaced one. -/
theorem read_value_iff_firstFit_no_items :
    (load .tgi (text "[]")).value = .ok (.array []) ∧
      FirstFit (.error (.unexpectedShape .tgi 2 none)) (table 2 .tgi) (.array [])
        (.error (.listOfGenerations .tgi 2)) := by
  have hload : (load (Backend.resolve (some .tgi)) (text "[]")).value = .ok (.array []) := by rfl
  exact ⟨hload, (read_value_iff_firstFit hload _).mp (by rfl)⟩

end Response

end CompletionWire
