import CompletionWire.Params
import CompletionWire.Proofs.Json.Readings
import CompletionWire.Proofs.Request.Content
import CompletionWire.Proofs.Response.Classification
import CompletionWire.Proofs.Response.RoundTrip
import CompletionWire.Proofs.Validation.Checked

/-!
# Data that was checked, written out and checked again

A check may take numbers from numerals and switches from words, but what it finds has one form, and
this form passes the same check as itself, under either spelling of the fields. So data that was
checked once can be written out and read any number of times without a change.
-/

namespace CompletionWire

/-! ### Looking up fields -/

namespace Field

variable {α : Type} {field : Field} {check : Json → Checked α} {members : Members} {default a : α}

theorem mem_of_find? {k : Text} {v : Json} (h : field.find? members = some (k, v)) :
    (k, v) ∈ members := by
  unfold find? at h
  split at h
  · rename_i w hw
    obtain ⟨rfl, rfl⟩ := Prod.mk.inj (Option.some.inj h)
    exact Members.mem_of_find? hw
  · obtain ⟨w, hw, heq⟩ := Option.map_eq_some_iff.1 h
    obtain ⟨rfl, rfl⟩ := Prod.mk.inj heq
    exact Members.mem_of_find? hw

theorem find?_eq_some_of_gives {v : Json} (h : members.Gives field.wire field.name v) :
    (field.find? members).map Prod.snd = some v := by
  rcases h with hwire | ⟨hnone, hname⟩
  · rw [find?, hwire]
    rfl
  · rw [find?, hnone, hname]
    rfl

theorem optional_eq_valid_iff :
    field.optional default check members = .valid a ↔
      (∃ k v, field.find? members = some (k, v) ∧ check v = .valid a) ∨
        field.find? members = none ∧ a = default := by
  rw [optional]
  cases hfind : field.find? members with
  | none => simp [eq_comm]
  | some found => simp [Prod.ext_iff]

theorem optional_of_find? {k : Text} {v : Json} (h : field.find? members = some (k, v))
    (hv : check v = .valid a) : field.optional default check members = .valid a :=
  optional_eq_valid_iff.2 (.inl ⟨k, v, h, hv⟩)

theorem required_of_find? {k : Text} {v : Json} (h : field.find? members = some (k, v))
    (hv : check v = .valid a) : field.required check members = .valid a := by
  rw [required, h]
  exact Checked.under_eq_valid_iff.2 hv

end Field

namespace Scalar

theorem nullable_object_eq_valid_iff {v : Json} {members? : Option Members} :
    nullable object v = .valid members? ↔ v = (members?.map .object).getD .null := by
  cases v <;> cases members? <;> simp [nullable, object, Checked.refuse, Checked.map]

theorem count_natCast (n : Nat) : count (.int n) = .valid n := by
  have hnot : ¬(n : Int) < 0 := Int.not_lt.2 (Int.natCast_nonneg n)
  simp [count, whole, report, hnot, bind, Except.bind, pure, Except.pure]

theorem binary64_float (x : Binary64) : binary64 (.float x) = .valid x := rfl

theorem truth_bool (b : Bool) : truth (.bool b) = .valid b := rfl

theorem array_strings (rule : Rule) (ts : List Text) :
    array rule string (.array (ts.map .string)) = .valid ts := by
  refine array_eq_valid_iff.2 ⟨_, rfl, ?_⟩
  rw [List.forall₂_map_left_iff]
  exact List.forall₂_same.2 fun t _ => rfl

theorem nullable_backend_tag (backend? : Option Backend) :
    nullable backend ((backend?.map fun b => Json.string b.tag).getD .null) = .valid backend? := by
  rcases backend? with - | (- | - | - | -) <;> rfl

end Scalar

/-! ### Checking what was checked -/

theorem GenerationParams.check_toJson (onWire : Bool) (p : GenerationParams) :
    check (p.toJson onWire) = .valid p := by
  rw [toJson, check, Scalar.model_eq_valid_iff.2 rfl, Checked.andThen, ofMembers,
    Field.optional_of_find? (k := maxNewTokensField.key onWire) (by cases onWire <;> rfl)
      (Scalar.count_natCast p.maxNewTokens),
    Field.optional_of_find? (k := temperatureField.key onWire) (by cases onWire <;> rfl)
      (Scalar.binary64_float p.temperature),
    Field.optional_of_find? (k := doSampleField.key onWire) (by cases onWire <;> rfl)
      (Scalar.truth_bool p.doSample),
    Field.optional_of_find? (k := topPField.key onWire) (by cases onWire <;> rfl)
      (Scalar.binary64_float p.topP),
    Field.optional_of_find? (k := stopTokensField.key onWire) (by cases onWire <;> rfl)
      (Scalar.array_strings .tupleType p.stopTokens)]
  rfl

theorem CompletionParams.check_toJson (onWire : Bool) (p : CompletionParams) :
    check (p.toJson onWire) = .valid p := by
  rw [toJson, check, Scalar.model_eq_valid_iff.2 rfl, Checked.andThen, ofMembers,
    Field.optional_of_find? (k := generationField.key onWire) (by cases onWire <;> rfl)
      (p.generation.check_toJson onWire),
    Field.optional_of_find? (k := backendField.key onWire) (by cases onWire <;> rfl)
      (Scalar.nullable_backend_tag p.backend?),
    Field.optional_of_find? (k := requestBodyField.key onWire) (by cases onWire <;> rfl)
      (Scalar.nullable_object_eq_valid_iff.2 rfl)]
  rfl

theorem Generation.check_toJson (g : Generation) : check g.toJson = .valid g := rfl

theorem Location.check_toJson (l : Location) : check l.toJson = .valid l := by
  cases l <;> rfl

theorem ErrorDetail.check_toJson (onWire : Bool) (d : ErrorDetail) :
    check (d.toJson onWire) = .valid d := by
  rw [toJson, check, Scalar.model_eq_valid_iff.2 rfl, Checked.andThen,
    Field.required_of_find? (k := locationField.key onWire) (by cases onWire <;> rfl)
      d.location.check_toJson,
    Field.required_of_find? (k := messageField.key onWire) (by cases onWire <;> rfl)
      (Scalar.string_eq_valid_iff.2 rfl),
    Field.required_of_find? (k := kindField.key onWire) (by cases onWire <;> rfl)
      (Scalar.string_eq_valid_iff.2 rfl)]
  rfl

/-! ### Values that are read back -/

namespace Json

/-- What a part itself is like if it is read back as it was: a whole number is within the digits
that are read, a binary64 number is finite, and no text holds a surrogate pair. -/
def IsLegible (maxDigits : Nat) : Json → Prop
  | .int n => n.natAbs < 10 ^ maxDigits
  | .float x => x.isFinite = true
  | .string s => ¬s.HasSurrogatePair
  | .object ms => ∀ m ∈ ms, ¬m.1.HasSurrogatePair
  | _ => True

/-- All numbers and texts of a value are read back as they were. -/
def Legible (maxDigits : Nat) (v : Json) : Prop := ∀ p ∈ v.parts, p.IsLegible maxDigits

namespace Legible

variable {maxDigits : Nat} {v : Json}

theorem wellFormed (h : v.Legible maxDigits) (hv : v.Orderly none) : v.WellFormed maxDigits := by
  intro p hp
  cases p with
  | int n => exact h _ hp
  | float x => exact h _ hp
  | object ms => exact hv _ hp
  | null | bool | string | array => trivial

theorem not_hasSurrogatePair (h : v.Legible maxDigits) : ∀ s ∈ v.texts, ¬s.HasSurrogatePair := by
  refine List.forall_mem_flatMap.2 fun p hp => ?_
  cases p with
  | string s => exact List.forall_mem_singleton.2 (h _ hp)
  | object ms => exact List.forall_mem_map.2 (h _ hp)
  | null | bool | int | float | array => exact List.forall_mem_nil _

end Legible

/-- A value of limited depth that is read back as it was. -/
structure Loadable (depth : Nat) (v : Json) : Prop where
  fits : v.Fits none depth
  legible : v.Legible 4300

namespace Loadable

variable {depth : Nat} {v : Json} {xs : List Json} {ms : Members}

theorem of_null (depth : Nat) : null.Loadable depth :=
  ⟨.of_null depth, List.forall_mem_singleton.2 trivial⟩

theorem of_bool (b : Bool) (depth : Nat) : (bool b).Loadable depth :=
  ⟨.of_bool b depth, List.forall_mem_singleton.2 trivial⟩

theorem of_natCast {n : Nat} (h : n < 10 ^ 4300) (depth : Nat) : (int n).Loadable depth :=
  ⟨.of_int (fun limit (hlimit : none = some limit) => nomatch hlimit) depth,
    List.forall_mem_singleton.2 h⟩

theorem of_float {x : Binary64} (h : x.isFinite = true) (depth : Nat) : (float x).Loadable depth :=
  ⟨.of_float x depth, List.forall_mem_singleton.2 h⟩

theorem of_string {s : Text} (h : ¬s.HasSurrogatePair) (depth : Nat) : (string s).Loadable depth :=
  ⟨.of_string s depth, List.forall_mem_singleton.2 h⟩

theorem of_items (h : ∀ x ∈ xs, x.Loadable depth) : (array xs).Loadable (depth + 1) :=
  ⟨.of_items fun x hx => (h x hx).fits,
    forall_parts_array.2 ⟨trivial, fun x hx => (h x hx).legible⟩⟩

theorem of_fields (fields : List Field) (onWire : Bool)
    (hfields : ms.map Prod.fst = fields.map (·.key onWire))
    (hnodup : (fields.map (·.key onWire)).Nodup)
    (hunicode : ∀ k ∈ fields.map (·.key onWire), k.IsUnicode)
    (h : ∀ m ∈ ms, m.2.Loadable depth) : (object ms).Loadable (depth + 1) := by
  rw [← hfields] at hnodup hunicode
  refine ⟨.of_members hnodup fun m hm => (h m hm).fits, forall_parts_object.2 ⟨?_, ?_⟩⟩
  · exact fun m hm => Text.not_hasSurrogatePair (hunicode _ (List.mem_map_of_mem hm))
  · exact fun m hm => (h m hm).legible

theorem mono {more : Nat} (h : v.Loadable depth) (hmore : depth ≤ more) : v.Loadable more :=
  ⟨h.fits.mono hmore, h.legible⟩

/-- The value comes back from its text, in whatever style it was written. -/
theorem load_write (h : v.Loadable Response.rules.maxDepth) (backend : Backend) {style : Style}
    (hstyle : style.Lawful) : (Response.load backend (v.write style)).value = .ok v := by
  have hadmit := Response.admit_rules (h.legible.wellFormed h.fits.orderly) h.fits.depth_le
  have hread := (document_write_eq_ok_iff hadmit hstyle Grammar.isBlanks_nil).2
    fun _ => h.legible.not_hasSurrogatePair
  rw [List.append_nil] at hread
  exact Response.load_eq_ok_iff.2 hread

end Loadable

end Json

/-! ### Models -/

structure GenerationParams.Legible (p : GenerationParams) : Prop where
  maxNewTokens : p.maxNewTokens < 10 ^ 4300
  temperature : p.temperature.isFinite = true
  topP : p.topP.isFinite = true
  stopTokens : ∀ s ∈ p.stopTokens, ¬s.HasSurrogatePair

theorem GenerationParams.loadable_toJson {p : GenerationParams} (h : p.Legible) (onWire : Bool) :
    (p.toJson onWire).Loadable 2 := by
  have hfields : ∀ onWire, (fields.map (·.key onWire)).Nodup ∧
    ∀ k ∈ fields.map (·.key onWire), k.IsUnicode := by decide
  have hstop : (Json.array (p.stopTokens.map .string)).Loadable 1 :=
    .of_items (List.forall_mem_map.2 fun s hs => .of_string (h.stopTokens s hs) 0)
  refine .of_fields fields onWire rfl (hfields onWire).1 (hfields onWire).2 ?_
  simp only [List.forall_mem_cons]
  exact ⟨.of_natCast h.maxNewTokens 1, .of_float h.temperature 1, .of_bool _ 1, .of_float h.topP 1,
    hstop, List.forall_mem_nil _⟩

/-- The numbers and texts of the parameters are read back as they were, and so is the object of
the caller. -/
structure CompletionParams.Legible (p : CompletionParams) : Prop where
  generation : p.generation.Legible
  requestBody : ∀ ms, p.requestBody? = some ms → (Json.object ms).Legible 4300

theorem CompletionParams.requestBody_of_check {v : Json} {p : CompletionParams}
    (h : check v = .valid p) : ∃ ms, v = .object ms ∧
      requestBodyField.optional none (Scalar.nullable Scalar.object) ms = .valid p.requestBody? := by
  obtain ⟨ms, hms, hmembers⟩ := Checked.andThen_eq_valid_iff.1 h
  obtain ⟨make, requestBody?, hmake, hbody, rfl⟩ := Checked.seq_eq_valid_iff.1 hmembers
  obtain ⟨make, backend?, hgeneration, -, rfl⟩ := Checked.seq_eq_valid_iff.1 hmake
  obtain ⟨generation, -, rfl⟩ := Checked.map_eq_valid_iff.1 hgeneration
  exact ⟨ms, Scalar.model_eq_valid_iff.1 hms, hbody⟩

theorem CompletionParams.requestBody_given {ms : Members} {requestBody? : Option Members}
    (h : requestBodyField.optional none (Scalar.nullable Scalar.object) ms = .valid requestBody?) :
    ((requestBodyField.find? ms).map Prod.snd).getD .null =
      (requestBody?.map .object).getD .null := by
  rcases Field.optional_eq_valid_iff.1 h with ⟨k, v, hfind, hv⟩ | ⟨hfind, rfl⟩
  · rw [hfind, Option.map_some, Option.getD_some]
    exact Scalar.nullable_object_eq_valid_iff.1 hv
  · rw [hfind]
    rfl

theorem CompletionParams.fits_requestBody {ms : Members} {requestBody? : Option Members}
    {depth : Nat} (hms : (Json.object ms).Fits none (depth + 1))
    (h : requestBodyField.optional none (Scalar.nullable Scalar.object) ms = .valid requestBody?) :
    ((requestBody?.map Json.object).getD Json.null).Fits none depth := by
  rw [← requestBody_given h]
  cases hfind : requestBodyField.find? ms with
  | none => exact .of_null depth
  | some found => exact hms.member (Field.mem_of_find? hfind)

theorem CompletionParams.loadable_toJson {ms : Members} {p : CompletionParams} {depth : Nat}
    (hms : (Json.object ms).Fits none (depth + 1)) (hdepth : 2 ≤ depth)
    (hbody : requestBodyField.optional none (Scalar.nullable Scalar.object) ms =
      .valid p.requestBody?)
    (h : p.Legible) (onWire : Bool) : (p.toJson onWire).Loadable (depth + 1) := by
  have hfields : ∀ onWire, (fields.map (·.key onWire)).Nodup ∧
    ∀ k ∈ fields.map (·.key onWire), k.IsUnicode := by decide
  have hbackend : ((p.backend?.map fun b => Json.string b.tag).getD .null).Loadable depth := by
    have htag (b : Backend) : b.tag.IsUnicode := by cases b <;> decide
    cases p.backend? with
    | none => exact .of_null depth
    | some b => exact .of_string (Text.not_hasSurrogatePair (htag b)) depth
  have hlegible : ((p.requestBody?.map Json.object).getD Json.null).Legible 4300 := by
    cases hrequest : p.requestBody? with
    | none => exact List.forall_mem_singleton.2 trivial
    | some ms => exact h.requestBody ms hrequest
  refine .of_fields fields onWire rfl (hfields onWire).1 (hfields onWire).2 ?_
  simp only [List.forall_mem_cons]
  exact ⟨(p.generation.loadable_toJson h.generation onWire).mono hdepth, hbackend,
    ⟨fits_requestBody hms hbody, hlegible⟩, List.forall_mem_nil _⟩

theorem Generation.loadable_toJson {g : Generation} (h : ¬g.generatedText.HasSurrogatePair) :
    g.toJson.Loadable 1 := by
  refine .of_fields fields true rfl (by decide) (by decide) ?_
  exact List.forall_mem_singleton.2 (.of_string h 0)

theorem Response.HoldsLocation.eq_toJson {v : Json} {l : Location} (h : HoldsLocation v l) :
    v = l.toJson := by
  cases h <;> rfl

structure ErrorDetail.Legible (d : ErrorDetail) : Prop where
  location : d.location.toJson.Legible 4300
  message : ¬d.message.HasSurrogatePair
  kind : ¬d.kind.HasSurrogatePair

theorem ErrorDetail.loadable_toJson {d : ErrorDetail} (h : d.Legible) (onWire : Bool) :
    (d.toJson onWire).Loadable 1 := by
  have hfields : ∀ onWire, (fields.map (·.key onWire)).Nodup ∧
    ∀ k ∈ fields.map (·.key onWire), k.IsUnicode := by decide
  have hlocation : d.location.toJson.Fits none 0 := by
    cases d.location with
    | name n => exact .of_string n 0
    | index i => exact .of_int (fun limit (hlimit : none = some limit) => nomatch hlimit) 0
  refine .of_fields fields onWire rfl (hfields onWire).1 (hfields onWire).2 ?_
  simp only [List.forall_mem_cons]
  exact ⟨⟨hlocation, h.location⟩, .of_string h.message 0, .of_string h.kind 0,
    List.forall_mem_nil _⟩

/-! ### Loading what was dumped -/

/-- The models whose instances are dumped. -/
inductive DataModel
  | generationParams
  | completionParams
  | generation
  | errorDetail
deriving DecidableEq

namespace DataModel

def Instance : DataModel → Type
  | generationParams => GenerationParams
  | completionParams => CompletionParams
  | generation => Generation
  | errorDetail => ErrorDetail

def check : (model : DataModel) → Json → Checked model.Instance
  | generationParams => GenerationParams.check
  | completionParams => CompletionParams.check
  | generation => Generation.check
  | errorDetail => ErrorDetail.check

/-- The fields of an instance as an object, in either spelling. -/
def toJson (onWire : Bool) : (model : DataModel) → model.Instance → Json
  | generationParams => GenerationParams.toJson onWire
  | completionParams => CompletionParams.toJson onWire
  | generation => Generation.toJson
  | errorDetail => ErrorDetail.toJson onWire

/-- The numbers and texts of an instance are read back as they were. -/
def Legible : (model : DataModel) → model.Instance → Prop
  | generationParams => GenerationParams.Legible
  | completionParams => CompletionParams.Legible
  | generation => fun g => ¬g.generatedText.HasSurrogatePair
  | errorDetail => ErrorDetail.Legible

def counts : DataModel → List (List Field)
  | generationParams => [[GenerationParams.maxNewTokensField]]
  | completionParams => [[CompletionParams.generationField, GenerationParams.maxNewTokensField]]
  | generation | errorDetail => []

/-- The fields that are dumped as they were given. -/
def kept : DataModel → List Field
  | generationParams => []
  | completionParams => [CompletionParams.requestBodyField]
  | generation => Generation.fields
  | errorDetail => ErrorDetail.fields

theorem check_toJson (onWire : Bool) (model : DataModel) (m : model.Instance) :
    model.check (toJson onWire model m) = .valid m := by
  cases model with
  | generationParams => exact GenerationParams.check_toJson onWire m
  | completionParams => exact CompletionParams.check_toJson onWire m
  | generation => exact Generation.check_toJson m
  | errorDetail => exact ErrorDetail.check_toJson onWire m

variable {model : DataModel} {v : Json} {m : model.Instance}

theorem loadable_toJson (hv : v.Fits none Response.rules.maxDepth) (hm : model.check v = .valid m)
    (h : model.Legible m) (onWire : Bool) :
    (toJson onWire model m).Loadable Response.rules.maxDepth := by
  cases model with
  | generationParams => exact (GenerationParams.loadable_toJson h onWire).mono (by decide)
  | completionParams =>
    obtain ⟨ms, rfl, hbody⟩ := CompletionParams.requestBody_of_check hm
    have hms : (Json.object ms).Fits none (989 + 1) := hv
    exact CompletionParams.loadable_toJson hms (by decide) hbody h onWire
  | generation => exact (Generation.loadable_toJson h).mono (by decide)
  | errorDetail => exact (ErrorDetail.loadable_toJson h onWire).mono (by decide)

theorem exists_count (onWire : Bool) (m : model.Instance) : ∀ path ∈ model.counts,
    ∃ n : Nat, (toJson onWire model m).at? (path.map (·.key onWire)) = some (.int n) := by
  cases model with
  | generationParams =>
    refine List.forall_mem_singleton.2 ⟨m.maxNewTokens, ?_⟩
    cases onWire <;> rfl
  | completionParams =>
    refine List.forall_mem_singleton.2 ⟨m.generation.maxNewTokens, ?_⟩
    cases onWire <;> rfl
  | generation | errorDetail => exact List.forall_mem_nil _

theorem at?_kept {ms : Members} (hm : model.check (.object ms) = .valid m) (onWire : Bool) :
    ∀ field ∈ model.kept, (toJson onWire model m).at? [field.key onWire] =
      some (((field.find? ms).map Prod.snd).getD .null) := by
  cases model with
  | generationParams => exact List.forall_mem_nil _
  | completionParams =>
    obtain ⟨ns, hns, hbody⟩ := CompletionParams.requestBody_of_check hm
    obtain rfl := Json.object.inj hns
    refine List.forall_mem_singleton.2 ?_
    rw [CompletionParams.requestBody_given hbody]
    cases onWire <;> rfl
  | generation =>
    obtain ⟨ns, hns, hfind⟩ := Response.generation_check_eq_valid_iff.1 hm
    obtain rfl := Json.object.inj hns
    refine List.forall_mem_singleton.2 ?_
    rw [Field.find?_eq_some_of_gives (Members.gives_self_iff.2 hfind)]
    cases onWire <;> rfl
  | errorDetail =>
    obtain ⟨ns, hns, ⟨w, hw, hlocation⟩, hmessage, hkind⟩ :=
      Response.errorDetail_check_eq_valid_iff.1 hm
    obtain rfl := Json.object.inj hns
    obtain rfl := hlocation.eq_toJson
    rw [kept, ErrorDetail.fields]
    simp only [List.forall_mem_cons]
    rw [Field.find?_eq_some_of_gives hw, Field.find?_eq_some_of_gives hmessage,
      Field.find?_eq_some_of_gives hkind]
    cases onWire <;> exact ⟨rfl, rfl, rfl, List.forall_mem_nil _⟩

/-- Data that a model was found in, numerals and words included, is dumped in the form that the model
is found in again: a dump in either spelling and any style is loaded, passes the check as the very
same instance and is dumped to the same texts. A count is then a whole number from zero on, and the
object of the caller, a generated text and the parts of an entry stay as they were given. The data
may be anything that was read, whole numbers of any length included. -/
theorem check_load_dump (hv : v.Fits none Response.rules.maxDepth) (hm : model.check v = .valid m)
    (h : model.Legible m) :
    (∀ (backend : Backend) (style : Json.Style) (onWire : Bool), style.Lawful →
      ∃ w n, (Response.load backend ((toJson onWire model m).write style)).value = .ok w ∧
        model.check w = .valid n ∧ n = m ∧
        ∀ again, (toJson again model n).write style = (toJson again model m).write style) ∧
    (∀ onWire, ∀ path ∈ model.counts,
      ∃ n : Nat, (toJson onWire model m).at? (path.map (·.key onWire)) = some (.int n)) ∧
    (∀ ms, v = .object ms → ∀ onWire, ∀ field ∈ model.kept,
      (toJson onWire model m).at? [field.key onWire] =
        some (((field.find? ms).map Prod.snd).getD .null)) := by
  refine ⟨fun backend style onWire hstyle => ?_, fun onWire => exists_count onWire m, ?_⟩
  · have hload := (loadable_toJson hv hm h onWire).load_write backend hstyle
    exact ⟨_, m, hload, check_toJson onWire model m, rfl, fun _ => rfl⟩
  · rintro ms rfl
    exact at?_kept hm

/-- A numeral with blanks around it and a switch given by a word are dumped as a number and a truth
value, which are then taken as such. -/
theorem check_load_dump_numeral_and_word :
    let generation : Members :=
      [(text "maxNewTokens", .string (text " 4_2.0 ")), (text "do_sample", .string (text "Off"))]
    let requestBody : Members := [(text "model", .string (text "m")), (text "raw", .bool true)]
    let v := Json.object [(text "requestParams", .object generation),
      (text "adaptor", .string (text "ollama")), (text "request_body", .object requestBody)]
    let m : CompletionParams :=
      { generation := { maxNewTokens := 42, doSample := false }, backend? := some .ollama,
        requestBody? := some requestBody }
    CompletionParams.check v = .valid m ∧ m.Legible ∧
      ∃ w, (Response.load .tgi ((m.toJson true).write .indented)).value = .ok w ∧
        CompletionParams.check w = .valid m := by
  intro generation requestBody v m
  have hcount {limit : Nat} (hlimit : 2 ≤ limit) : m.generation.maxNewTokens < 10 ^ limit :=
    (show 42 < 10 ^ 2 by decide).trans_le (Nat.pow_le_pow_right (by decide) hlimit)
  have hbody : (Json.object requestBody).Fits none 1 := by
    refine .of_members (by decide) (List.forall_mem_cons.2 ⟨.of_string _ 0, ?_⟩)
    exact List.forall_mem_singleton.2 (.of_bool true 0)
  have hgeneration : (Json.object generation).Fits none 1 := by
    refine .of_members (by decide) (List.forall_mem_cons.2 ⟨.of_string _ 0, ?_⟩)
    exact List.forall_mem_singleton.2 (.of_string _ 0)
  have hv : v.Fits none 2 := by
    refine .of_members (by decide) (List.forall_mem_cons.2 ⟨hgeneration, ?_⟩)
    exact List.forall_mem_cons.2 ⟨.of_string _ 1, List.forall_mem_singleton.2 hbody⟩
  have hm : CompletionParams.check v = .valid m := rfl
  have hlegible : m.Legible := by
    refine ⟨⟨hcount (by decide), by decide, by decide, List.forall_mem_nil _⟩, fun ms hms => ?_⟩
    obtain rfl := Option.some.inj hms
    have hunicode : ∀ k ∈ requestBody, k.1.IsUnicode := by decide
    refine Json.forall_parts_object.2 ⟨?_, ?_⟩
    · exact fun k hk => Text.not_hasSurrogatePair (hunicode k hk)
    · refine List.forall_mem_cons.2 ⟨List.forall_mem_singleton.2 ?_, ?_⟩
      · exact Text.not_hasSurrogatePair (t := text "m") (by decide)
      · exact List.forall_mem_singleton.2 (List.forall_mem_singleton.2 trivial)
  obtain ⟨w, n, hload, hcheck, rfl, -⟩ := (@check_load_dump .completionParams v m
    (hv.mono (by decide)) hm hlegible).1 .tgi .indented true Json.Style.lawful_indented
  exact ⟨hm, hlegible, w, hload, hcheck⟩

end DataModel

end CompletionWire
