import CompletionWire.Proofs.Validation.Dumps
import Mathlib.Data.List.Pairwise
import Mathlib.Logic.Relation

/-!
# Spellings of data

A check asks an object for the value of each field, which stands under the wire name or else under
the name, and for nothing besides. So an object may be spelled in another way, at either level: as
long as every field keeps its value, the same instance is found or the same rules are broken in the
same order. Only where an issue stands tells the spellings apart.
-/

namespace CompletionWire

/-! ### Verdicts -/

namespace Checked

variable {α β : Type}

/-- What a check says of data, wherever in the data: the value, or the rules that are broken. -/
def verdict : Checked α → Except (List Rule) α
  | valid a => .ok a
  | invalid issues => .error (issues.map Issue.rule)

theorem verdict_eq_ok_iff {x : Checked α} {a : α} : x.verdict = .ok a ↔ x = valid a := by
  cases x <;> simp [verdict]

theorem verdict_eq_error_iff {x : Checked α} {rules : List Rule} :
    x.verdict = .error rules ↔ ∃ issues, x = invalid issues ∧ issues.map Issue.rule = rules := by
  cases x <;> simp [verdict]

theorem toOption_eq_verdict (x : Checked α) : x.toOption = x.verdict.toOption := by
  cases x <;> rfl

def both : Except (List Rule) (α → β) → Except (List Rule) α → Except (List Rule) β
  | .ok f, .ok a => .ok (f a)
  | .ok _, .error rules => .error rules
  | .error rules, .ok _ => .error rules
  | .error rules, .error more => .error (rules ++ more)

@[simp] theorem verdict_under (x : Checked α) (step : Step) :
    (x.under step).verdict = x.verdict := by
  cases x with
  | valid a => rfl
  | invalid issues => simp [under, verdict, Function.comp_def]

theorem verdict_map (f : α → β) (x : Checked α) : (f <$> x).verdict = f <$> x.verdict := by
  cases x <;> rfl

theorem verdict_seq (f : Checked (α → β)) (x : Checked α) :
    (f <*> x).verdict = both f.verdict x.verdict := by
  cases f with
  | valid g => cases x <;> rfl
  | invalid issues =>
    cases x with
    | valid a => rfl
    | invalid more => exact congrArg Except.error List.map_append

end Checked

/-! ### Looking up keys -/

namespace Members

variable {key k : Text} {v : Json} {ms ns : Members}

theorem find?_append : find? key (ms ++ ns) = (ms.find? key).or (ns.find? key) := by
  induction ms with
  | nil => rfl
  | cons m rest ih =>
    rw [List.cons_append, find?, find?]
    split_ifs with hkey
    · rfl
    · exact ih

theorem find?_eq_none_iff : ms.find? key = none ↔ key ∉ ms.map Prod.fst := by
  induction ms with
  | nil => simp [find?]
  | cons m rest ih =>
    rw [find?, List.map_cons, List.mem_cons, not_or, ← ih]
    split_ifs with hkey
    · simp [hkey]
    · simp [Ne.symm hkey]

theorem find?_insert_of_ne (h : k ≠ key) :
    find? key (ms ++ (k, v) :: ns) = find? key (ms ++ ns) := by
  rw [find?_append, find?_append, find?, if_neg h]

theorem find?_insert_self (h : key ∉ (ms ++ ns).map Prod.fst) :
    find? key (ms ++ (key, v) :: ns) = some v := by
  have hms : ms.find? key = none := by
    rw [find?_eq_none_iff]
    intro hmem
    exact h (List.map_append ▸ List.mem_append_left _ hmem)
  rw [find?_append, hms, find?, if_pos rfl, Option.none_or]

theorem map_find?_replace {α : Type} {f : Json → α} {w : Json} (h : f v = f w) :
    (find? key (ms ++ (k, v) :: ns)).map f = (find? key (ms ++ (k, w) :: ns)).map f := by
  rw [find?_append, find?_append, find?, find?]
  split_ifs with hkey
  · rw [Option.map_or, Option.map_or, Option.map_some, Option.map_some, h]
  · rfl

theorem find?_perm (h : ms.Perm ns) (hkeys : (ms.map Prod.fst).Nodup) :
    ms.find? key = ns.find? key := by
  induction h with
  | nil => rfl
  | cons m h ih =>
    rw [List.map_cons, List.nodup_cons] at hkeys
    rw [find?, find?, ih hkeys.2]
  | swap m n rest =>
    have hne : n.1 ≠ m.1 := by
      intro heq
      simp [heq] at hkeys
    simp only [find?]
    split_ifs with hm hn hn
    · exact absurd (hm.trans hn.symm) hne
    all_goals rfl
  | trans h _ ih ih' => exact (ih hkeys).trans (ih' ((h.map Prod.fst).nodup hkeys))

end Members

/-! ### What a field has -/

namespace Field

variable {field other : Field} {k : Text} {v : Json} {ms ns : Members}

/-- The value that an object has for a field. -/
def value? (field : Field) (ms : Members) : Option Json := (field.find? ms).map Prod.snd

def verdict? {α : Type} (field : Field) (check : Json → Checked α) (ms : Members) :
    Option (Except (List Rule) α) :=
  (field.value? ms).map fun v => (check v).verdict

def spellings (field : Field) : List Text := [field.wire, field.name]

theorem wire_mem_spellings (field : Field) : field.wire ∈ field.spellings :=
  List.mem_cons_self ..

theorem name_mem_spellings (field : Field) : field.name ∈ field.spellings :=
  List.mem_cons_of_mem _ (List.mem_cons_self ..)

/-- No key spells both fields. -/
def Apart (field other : Field) : Prop := ∀ k ∈ field.spellings, k ∉ other.spellings

instance : DecidableRel Apart := fun field other =>
  inferInstanceAs (Decidable (∀ k ∈ field.spellings, k ∉ other.spellings))

instance : Std.Symm Apart := ⟨fun _ _ h k hother hfield => h k hfield hother⟩

theorem value?_eq_or (field : Field) (ms : Members) :
    field.value? ms = (ms.find? field.wire).or (ms.find? field.name) := by
  rw [value?, find?]
  cases ms.find? field.wire with
  | some v => rfl
  | none =>
    cases ms.find? field.name <;> rfl

theorem isSome_find? (field : Field) (ms : Members) :
    (field.find? ms).isSome = (field.value? ms).isSome := by
  rw [value?, Option.isSome_map]

theorem verdict_optional {α : Type} (field : Field) (default : α) (check : Json → Checked α)
    (ms : Members) :
    (field.optional default check ms).verdict = (field.verdict? check ms).getD (.ok default) := by
  rw [optional, verdict?, value?]
  cases field.find? ms with
  | none => rfl
  | some found => exact Checked.verdict_under ..

theorem verdict_required {α : Type} (field : Field) (check : Json → Checked α) (ms : Members) :
    (field.required check ms).verdict = (field.verdict? check ms).getD (.error [.missing]) := by
  rw [required, verdict?, value?]
  cases field.find? ms with
  | none => rfl
  | some found => exact Checked.verdict_under ..

theorem value?_insert_of_not_mem (h : k ∉ field.spellings) :
    field.value? (ms ++ (k, v) :: ns) = field.value? (ms ++ ns) := by
  obtain ⟨hwire, hname⟩ : k ≠ field.wire ∧ k ≠ field.name := by simpa [spellings] using h
  rw [value?_eq_or, value?_eq_or, Members.find?_insert_of_ne hwire,
    Members.find?_insert_of_ne hname]

theorem value?_insert_self (hk : k ∈ field.spellings)
    (h : ∀ key ∈ field.spellings, key ∉ (ms ++ ns).map Prod.fst) :
    field.value? (ms ++ (k, v) :: ns) = some v := by
  rw [value?_eq_or]
  by_cases hwire : k = field.wire
  · rw [← hwire, Members.find?_insert_self (h k hk), Option.some_or]
  · have hname : k = field.name := by
      simpa [spellings, hwire] using hk
    have hnone : (ms ++ ns).find? field.wire = none :=
      Members.find?_eq_none_iff.2 (h field.wire field.wire_mem_spellings)
    rw [Members.find?_insert_of_ne hwire, hnone, ← hname, Members.find?_insert_self (h k hk),
      Option.none_or]

/-- Beside the wire name, it does not matter whether the name is there or what stands under it. -/
theorem value?_insert_name (hne : field.name ≠ field.wire)
    (h : field.wire ∈ (ms ++ ns).map Prod.fst) :
    field.value? (ms ++ (field.name, v) :: ns) = field.value? (ms ++ ns) := by
  rw [value?_eq_or, value?_eq_or, Members.find?_insert_of_ne hne]
  cases hwire : (ms ++ ns).find? field.wire with
  | some w => rfl
  | none => exact absurd h (Members.find?_eq_none_iff.1 hwire)

/-- Where a value is replaced by another of the same image, a field keeps the image of its value. -/
theorem map_value?_replace {α : Type} {f : Json → α} {w : Json} (h : f v = f w) :
    (field.value? (ms ++ (k, v) :: ns)).map f = (field.value? (ms ++ (k, w) :: ns)).map f := by
  simp only [value?_eq_or, Option.map_or, Members.map_find?_replace h]

end Field

/-! ### Other spellings -/

/-- One change to an object that leaves every field its value. -/
inductive Rewrites (fields : List Field) : Members → Members → Prop
  /-- The only spelling of a field is replaced by the other one. -/
  | rename {field : Field} (hfield : field ∈ fields) (v : Json) {ms ns : Members}
      (h : ∀ k ∈ field.spellings, k ∉ (ms ++ ns).map Prod.fst) :
      Rewrites fields (ms ++ (field.wire, v) :: ns) (ms ++ (field.name, v) :: ns)
  /-- The name of a field is left out where its wire name is there. -/
  | shadowed {field : Field} (hfield : field ∈ fields) (hne : field.name ≠ field.wire) (v : Json)
      {ms ns : Members} (h : field.wire ∈ (ms ++ ns).map Prod.fst) :
      Rewrites fields (ms ++ (field.name, v) :: ns) (ms ++ ns)
  /-- A key that spells no field is left out. -/
  | unknown {k : Text} (hk : ∀ field ∈ fields, k ∉ field.spellings) (v : Json) (ms ns : Members) :
      Rewrites fields (ms ++ (k, v) :: ns) (ms ++ ns)
  | reorder {ms ns : Members} (hkeys : (ms.map Prod.fst).Nodup) (h : ms.Perm ns) :
      Rewrites fields ms ns

theorem Rewrites.value?_eq {fields : List Field} (hfields : fields.Pairwise Field.Apart)
    {ms ns : Members} (h : Rewrites fields ms ns) {field : Field} (hfield : field ∈ fields) :
    field.value? ms = field.value? ns := by
  have hapart : ∀ other ∈ fields, field ≠ other → ∀ k ∈ other.spellings, k ∉ field.spellings := by
    intro other hother hne
    exact hfields.forall hother hfield hne.symm
  cases h with
  | @rename other hother v ms ns h =>
    by_cases hsame : field = other
    · subst hsame
      rw [Field.value?_insert_self field.wire_mem_spellings h,
        Field.value?_insert_self field.name_mem_spellings h]
    · have hnot := hapart other hother hsame
      rw [Field.value?_insert_of_not_mem (hnot _ other.wire_mem_spellings),
        Field.value?_insert_of_not_mem (hnot _ other.name_mem_spellings)]
  | @shadowed other hother hne v ms ns h =>
    by_cases hsame : field = other
    · subst hsame
      exact Field.value?_insert_name hne h
    · have hnot := hapart other hother hsame
      exact Field.value?_insert_of_not_mem (hnot _ other.name_mem_spellings)
  | unknown hk v ms ns => exact Field.value?_insert_of_not_mem (hk field hfield)
  | reorder hkeys h =>
    rw [Field.value?_eq_or, Field.value?_eq_or, Members.find?_perm h hkeys,
      Members.find?_perm h hkeys]

theorem GenerationParams.verdict_congr {ms ns : Members}
    (h : ∀ field ∈ fields, field.value? ms = field.value? ns) :
    (check (.object ms)).verdict = (check (.object ns)).verdict := by
  simp only [fields, List.forall_mem_cons] at h
  obtain ⟨hcount, htemperature, hsample, htopP, hstop, -⟩ := h
  simp only [check, Scalar.model, Checked.andThen, ofMembers, Checked.verdict_seq,
    Checked.verdict_map, Field.verdict_optional, Field.verdict?, hcount, htemperature, hsample,
    htopP, hstop]

theorem CompletionParams.verdict_congr {ms ns : Members}
    (hgeneration : generationField.verdict? GenerationParams.check ms =
      generationField.verdict? GenerationParams.check ns)
    (hbackend : backendField.value? ms = backendField.value? ns)
    (hrequestBody : requestBodyField.value? ms = requestBodyField.value? ns) :
    (check (.object ms)).verdict = (check (.object ns)).verdict := by
  simp only [check, Scalar.model, Checked.andThen, ofMembers, Checked.verdict_seq,
    Checked.verdict_map, Field.verdict_optional, hgeneration]
  simp only [Field.verdict?, hbackend, hrequestBody]

theorem Generation.verdict_congr {ms ns : Members}
    (h : ∀ field ∈ fields, field.value? ms = field.value? ns) :
    (check (.object ms)).verdict = (check (.object ns)).verdict := by
  simp only [check, Scalar.model, Checked.andThen, Checked.verdict_map, Field.verdict_required,
    Field.verdict?, h textField (List.mem_cons_self ..)]

theorem ErrorDetail.verdict_congr {ms ns : Members}
    (h : ∀ field ∈ fields, field.value? ms = field.value? ns) :
    (check (.object ms)).verdict = (check (.object ns)).verdict := by
  simp only [fields, List.forall_mem_cons] at h
  obtain ⟨hlocation, hmessage, hkind, -⟩ := h
  simp only [check, Scalar.model, Checked.andThen, Checked.verdict_seq, Checked.verdict_map,
    Field.verdict_required, Field.verdict?, hlocation, hmessage, hkind]

namespace DataModel

def fields : DataModel → List Field
  | generationParams => GenerationParams.fields
  | completionParams => CompletionParams.fields
  | generation => Generation.fields
  | errorDetail => ErrorDetail.fields

theorem pairwise_apart (model : DataModel) : model.fields.Pairwise Field.Apart := by
  cases model <;> decide

/-- One change to the object of a model, at its own level or within its parameters. -/
inductive Respells : (model : DataModel) → Members → Members → Prop
  | keys {model : DataModel} {ms ns : Members} (h : Rewrites model.fields ms ns) :
      Respells model ms ns
  | nested {k : Text} (hk : k ∈ CompletionParams.generationField.spellings) {gs hs : Members}
      (h : Rewrites GenerationParams.fields gs hs) (ms ns : Members) :
      Respells completionParams (ms ++ (k, .object gs) :: ns) (ms ++ (k, .object hs) :: ns)

/-- Any number of changes, back and forth. -/
def SameData (model : DataModel) : Members → Members → Prop := Relation.EqvGen model.Respells

variable {model : DataModel} {ms ns : Members}

theorem verdict_congr (h : ∀ field ∈ model.fields, field.value? ms = field.value? ns) :
    (model.check (.object ms)).verdict = (model.check (.object ns)).verdict := by
  cases model with
  | generationParams => exact GenerationParams.verdict_congr h
  | completionParams =>
    simp only [fields, CompletionParams.fields, List.forall_mem_cons] at h
    obtain ⟨hgeneration, hbackend, hrequestBody, -⟩ := h
    refine CompletionParams.verdict_congr ?_ hbackend hrequestBody
    rw [Field.verdict?, Field.verdict?, hgeneration]
  | generation => exact Generation.verdict_congr h
  | errorDetail => exact ErrorDetail.verdict_congr h

theorem Respells.verdict_eq (h : model.Respells ms ns) :
    (model.check (.object ms)).verdict = (model.check (.object ns)).verdict := by
  cases h with
  | keys h => exact verdict_congr fun field hfield => h.value?_eq model.pairwise_apart hfield
  | @nested k hk gs hs h ms ns =>
    have hapart := completionParams.pairwise_apart
    have hgeneration : (GenerationParams.check (.object gs)).verdict =
        (GenerationParams.check (.object hs)).verdict :=
      GenerationParams.verdict_congr fun field hfield =>
        h.value?_eq generationParams.pairwise_apart hfield
    have hvalue : ∀ field ∈ [CompletionParams.backendField, CompletionParams.requestBodyField],
        field.value? (ms ++ (k, .object gs) :: ns) =
          field.value? (ms ++ (k, .object hs) :: ns) := by
      intro field hfield
      have hnot : k ∉ field.spellings := (List.pairwise_cons.1 hapart).1 field hfield k hk
      rw [Field.value?_insert_of_not_mem hnot, Field.value?_insert_of_not_mem hnot]
    simp only [List.forall_mem_cons] at hvalue
    exact CompletionParams.verdict_congr (Field.map_value?_replace hgeneration) hvalue.1 hvalue.2.1

theorem Respells.isSome_eq (h : model.Respells ms ns) {field : Field}
    (hfield : field ∈ model.fields) : (field.find? ms).isSome = (field.find? ns).isSome := by
  rw [Field.isSome_find?, Field.isSome_find?]
  cases h with
  | keys h => rw [h.value?_eq model.pairwise_apart hfield]
  | @nested k hk gs hs h ms ns =>
    have hunit : (field.value? (ms ++ (k, .object gs) :: ns)).map (fun _ => ()) =
        (field.value? (ms ++ (k, .object hs) :: ns)).map fun _ => () :=
      Field.map_value?_replace rfl
    simpa only [Option.isSome_map] using congrArg Option.isSome hunit

/-- What no change alters is the same for all spellings of data. -/
theorem SameData.congr {α : Type} {f : Members → α} (h : model.SameData ms ns)
    (hstep : ∀ ms ns, model.Respells ms ns → f ms = f ns) : f ms = f ns := by
  induction h with
  | rel ms ns h => exact hstep ms ns h
  | refl ms => rfl
  | symm ms ns h ih => exact ih.symm
  | trans ms ns os h h' ih ih' => exact ih.trans ih'

/-- The dump of the instance that is found in data, if there is one. -/
def dump? (model : DataModel) (onWire : Bool) (v : Json) : Option Json :=
  (model.check v).toOption.map (toJson onWire model)

/-- Whatever the spelling of data, the same instance is found, with the same fields given and the
same dumps, or the same rules are broken in the same order. -/
theorem check_of_sameData (h : model.SameData ms ns) :
    (∀ m, model.check (.object ms) = .valid m ↔ model.check (.object ns) = .valid m) ∧
    (∀ onWire, model.dump? onWire (.object ms) = model.dump? onWire (.object ns)) ∧
    (∀ field ∈ model.fields, (field.find? ms).isSome = (field.find? ns).isSome) ∧
    ∀ issues, model.check (.object ms) = .invalid issues →
      ∃ issues', model.check (.object ns) = .invalid issues' ∧
        issues'.map Issue.rule = issues.map Issue.rule := by
  have hverdict : (model.check (.object ms)).verdict = (model.check (.object ns)).verdict :=
    h.congr fun _ _ => Respells.verdict_eq
  refine ⟨fun m => ?_, fun onWire => ?_, fun field hfield => ?_, ?_⟩
  · rw [← Checked.verdict_eq_ok_iff, ← Checked.verdict_eq_ok_iff, hverdict]
  · rw [dump?, dump?, Checked.toOption_eq_verdict, Checked.toOption_eq_verdict, hverdict]
  · exact h.congr fun _ _ hstep => hstep.isSome_eq hfield
  · intro issues hissues
    apply Checked.verdict_eq_error_iff.1
    rw [← hverdict, hissues]
    rfl

/-- A name that is shadowed, a key of no field, another spelling within the parameters and another
order: the two rules that are broken are the same. -/
theorem check_of_sameData_mixture :
    let chance : Text → Members := fun key => [(key, .string (text "half"))]
    let ms : Members := [
      (text "backend", .string (text "tgi")),
      (text "colour", .null),
      (text "generation_params", .object (chance (text "top_p"))),
      (text "adaptor", .string (text "none"))]
    let ns : Members := [
      (text "adaptor", .string (text "none")),
      (text "generation_params", .object (chance (text "topP")))]
    completionParams.SameData ms ns ∧
      ∃ issues issues', CompletionParams.check (.object ms) = .invalid issues ∧
        CompletionParams.check (.object ns) = .invalid issues' ∧
        issues'.map Issue.rule = issues.map Issue.rule ∧
        issues.map Issue.rule = [.floatParsing, .backendTag] := by
  intro chance ms ns
  let adaptor : Text × Json := (text "adaptor", .string (text "none"))
  let params (key : Text) : Text × Json := (text "generation_params", .object (chance key))
  let rest : Members := [(text "colour", .null), params (text "top_p"), adaptor]
  have hshadowed : completionParams.Respells ms rest :=
    .keys (@Rewrites.shadowed _ CompletionParams.backendField
      (by simp [fields, CompletionParams.fields]) (by decide) _ [] rest (by decide))
  have hunknown : completionParams.Respells rest [params (text "top_p"), adaptor] :=
    .keys (.unknown (by decide) _ [] _)
  have hrename : Rewrites GenerationParams.fields (chance (text "topP")) (chance (text "top_p")) :=
    @Rewrites.rename _ GenerationParams.topPField (by simp [GenerationParams.fields]) _ [] []
      (by decide)
  have hnested : completionParams.Respells [params (text "topP"), adaptor]
      [params (text "top_p"), adaptor] :=
    .nested (by decide) hrename [] [adaptor]
  have hreorder : completionParams.Respells [params (text "topP"), adaptor] ns :=
    .keys (.reorder (by decide) (.swap ..))
  have hsame : completionParams.SameData ms ns :=
    .trans _ _ _ (.trans _ _ _ (.rel _ _ hshadowed) (.rel _ _ hunknown))
      (.trans _ _ _ (.symm _ _ (.rel _ _ hnested)) (.rel _ _ hreorder))
  obtain ⟨issues', hissues', hrules⟩ := (check_of_sameData hsame).2.2.2 _ rfl
  exact ⟨hsame, _, issues', rfl, hissues', hrules, rfl⟩

end DataModel

end CompletionWire
