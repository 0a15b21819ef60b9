import CompletionWire.Proofs.Json.Sorting
import CompletionWire.Proofs.Response.Loading
import CompletionWire.Proofs.Response.Sizes

/-!
# What a response depends on

The shapes of a backend look at a few fields of an object and at the items of arrays, and at nothing
else. The essence of a value is what is left when all other fields are taken out of these objects
and the members of every object stand in the order of their keys. A row of the table fits a value
exactly if it fits its essence, with the same outcome, so that texts of one essence are read as the
same, however they were written.
-/

namespace CompletionWire

namespace Json

/-- The members of an object whose keys spell one of the fields. -/
def only (fields : List Field) : Json → Json
  | .object ms => .object (ms.filter fun m => fields.any (·.spellings.any (m.1 = ·)))
  | v => v

def eachItem (f : Json → Json) : Json → Json
  | .array xs => .array (xs.map f)
  | v => v

/-- Two values that hold the same. -/
def Alike {α : Type} (holds : Json → α → Prop) (v w : Json) : Prop := ∀ a, holds v a ↔ holds w a

namespace Alike

variable {α : Type} {holds : Json → α → Prop} {u v w : Json}

theorem trans (h : Alike holds u v) (h' : Alike holds v w) : Alike holds u w :=
  fun a => (h a).trans (h' a)

end Alike

/-! ### Looking into objects and arrays -/

section Looking

variable {α : Type} {holds : Json → α → Prop} {key other : Text} {fields : List Field}
  {f : Json → Json}

theorem hasText_object_iff {ms : Members} {t : Text} :
    (object ms).HasText key t ↔ ms.find? key = some (.string t) := by
  simp [HasText]

theorem hasArrayOf_object_iff {ms : Members} {xs : List α} :
    (object ms).HasArrayOf key holds xs ↔ ∃ w, ms.find? key = some w ∧ w.IsArrayOf holds xs := by
  simp [HasArrayOf]

theorem isArrayOf_array_iff {vs : List Json} {xs : List α} :
    (array vs).IsArrayOf holds xs ↔ List.Forall₂ holds vs xs := by
  simp [IsArrayOf]

theorem find?_only {field : Field} (hfield : field ∈ fields) (hkey : key ∈ field.spellings)
    (ms : Members) :
    Members.find? key (ms.filter fun m => fields.any (·.spellings.any (m.1 = ·))) =
      ms.find? key := by
  apply Members.find?_filter
  intro v
  simp only [List.any_eq_true, decide_eq_true_eq]
  exact ⟨field, hfield, key, hkey, rfl⟩

theorem alike_hasText_only {field : Field} (hfield : field ∈ fields) (hkey : key ∈ field.spellings)
    (v : Json) : Alike (HasText key) (v.only fields) v := by
  intro t
  cases v with
  | object ms => rw [only, hasText_object_iff, hasText_object_iff, find?_only hfield hkey]
  | _ => rfl

theorem alike_hasArrayOf_only {field : Field} (hfield : field ∈ fields)
    (hkey : key ∈ field.spellings) (v : Json) :
    Alike (HasArrayOf key holds) (v.only fields) v := by
  intro xs
  cases v with
  | object ms =>
    rw [only, hasArrayOf_object_iff, hasArrayOf_object_iff, find?_only hfield hkey]
  | _ => rfl

theorem alike_isArrayOf_only (v : Json) : Alike (IsArrayOf holds) (v.only fields) v := by
  intro xs
  cases v with
  | object ms => simp [only, IsArrayOf]
  | _ => rfl

theorem forall₂_map_iff {vs : List Json} {xs : List α} (h : ∀ v ∈ vs, Alike holds (f v) v) :
    List.Forall₂ holds (vs.map f) xs ↔ List.Forall₂ holds vs xs := by
  rw [List.forall₂_map_left_iff]
  induction vs generalizing xs with
  | nil => simp
  | cons v vs ih =>
    obtain ⟨hv, hvs⟩ := List.forall_mem_cons.1 h
    simp only [List.forall₂_cons_left_iff, hv _, ih hvs]

theorem alike_isArrayOf_eachItem (h : ∀ v, Alike holds (f v) v) (v : Json) :
    Alike (IsArrayOf holds) (v.eachItem f) v := by
  intro xs
  cases v with
  | array vs =>
    rw [eachItem, isArrayOf_array_iff, isArrayOf_array_iff, forall₂_map_iff fun v _ => h v]
  | _ => rfl

theorem alike_hasText_eachItem (v : Json) : Alike (HasText key) (v.eachItem f) v := by
  intro t
  cases v with
  | array vs => simp [eachItem, HasText]
  | _ => rfl

theorem alike_hasArrayOf_within (h : ∀ v, Alike (IsArrayOf holds) (f v) v) (v : Json) :
    Alike (HasArrayOf key holds) (v.within key f) v := by
  intro xs
  cases v with
  | object ms =>
    rw [within, hasArrayOf_object_iff, hasArrayOf_object_iff, Members.find?_change_self]
    simp only [Option.map_eq_some_iff, exists_exists_and_eq_and]
    exact exists_congr fun w => and_congr_right fun _ => h w xs
  | _ => rfl

theorem alike_hasArrayOf_within_of_ne (hne : other ≠ key) (v : Json) :
    Alike (HasArrayOf other holds) (v.within key f) v := by
  intro xs
  cases v with
  | object ms =>
    rw [within, hasArrayOf_object_iff, hasArrayOf_object_iff, Members.find?_change_of_ne f hne]
  | _ => rfl

end Looking

/-! ### Sorted values -/

/-- What a value holds cannot be told from the order of members in it. -/
def IgnoresOrder {α : Type} (limit? : Option Nat) (holds : Json → α → Prop) : Prop :=
  ∀ v : Json, v.Orderly limit? → Alike holds v.sorted v

namespace IgnoresOrder

variable {α : Type} {holds : Json → α → Prop} {key : Text} {limit? : Option Nat}

theorem hasText : IgnoresOrder limit? (HasText key) := by
  intro v hv t
  cases v with
  | object ms =>
    obtain ⟨ns, hns, hfind⟩ := exists_sorted_object hv.keys
    rw [hns, hasText_object_iff, hasText_object_iff, hfind]
    simp only [Option.map_eq_some_iff, sorted_eq_string_iff, exists_eq_right]
  | array xs => simp [sorted, HasText]
  | _ => rfl

theorem isArrayOf (h : IgnoresOrder limit? holds) : IgnoresOrder limit? (IsArrayOf holds) := by
  intro v hv xs
  cases v with
  | array vs =>
    rw [sorted_array, isArrayOf_array_iff, isArrayOf_array_iff,
      forall₂_map_iff fun v hmem => h v (hv.item hmem)]
  | object ms => simp [sorted, IsArrayOf]
  | _ => rfl

theorem hasArrayOf (h : IgnoresOrder limit? holds) :
    IgnoresOrder limit? (HasArrayOf key holds) := by
  intro v hv xs
  cases v with
  | object ms =>
    obtain ⟨ns, hns, hfind⟩ := exists_sorted_object hv.keys
    rw [hns, hasArrayOf_object_iff, hasArrayOf_object_iff, hfind]
    simp only [Option.map_eq_some_iff, exists_exists_and_eq_and]
    refine exists_congr fun w => and_congr_right fun hw => ?_
    exact h.isArrayOf w (hv.member (Members.mem_of_find? hw)) xs
  | array vs => simp [sorted, HasArrayOf]
  | _ => rfl

end IgnoresOrder

end Json

namespace Response

open Json (Alike IgnoresOrder)

/-! ### Entries of error lists -/

theorem gives_map_iff {ms ns : Members} {first second : Text} {f : Json → Json} {w : Json}
    (hfirst : ns.find? first = (ms.find? first).map f)
    (hsecond : ns.find? second = (ms.find? second).map f) :
    ns.Gives first second w ↔ ∃ v, ms.Gives first second v ∧ f v = w := by
  rw [Members.Gives, hfirst, hsecond]
  cases hms : ms.find? first with
  | some v => simp [Members.Gives, hms]
  | none => simp [Members.Gives, hms]

/-- An object that has the values of another one for all fields of an entry, changed without a
change to places and strings, holds the same entry. -/
theorem alike_holdsDetail {ms ns : Members} {f : Json → Json}
    (hstring : ∀ v t, f v = .string t ↔ v = .string t)
    (hlocation : ∀ v, Alike HoldsLocation (f v) v)
    (hfind : ∀ field ∈ ErrorDetail.fields, ∀ key ∈ field.spellings,
      ns.find? key = (ms.find? key).map f) :
    Alike HoldsDetail (.object ns) (.object ms) := by
  intro d
  simp only [ErrorDetail.fields, ErrorDetail.locationField, ErrorDetail.messageField,
    ErrorDetail.kindField, Field.spellings, List.forall_mem_cons] at hfind
  obtain ⟨⟨hloc, hlocationName, -⟩, ⟨hmsg, hmessageName, -⟩, ⟨htype, hkindName, -⟩, -⟩ := hfind
  simp only [HoldsDetail, Json.object.injEq, exists_eq_left', gives_map_iff hloc hlocationName,
    gives_map_iff hmsg hmessageName, gives_map_iff htype hkindName, hstring, exists_eq_right]
  refine and_congr_left' ⟨?_, ?_⟩
  · rintro ⟨-, ⟨v, hv, rfl⟩, hw⟩
    exact ⟨v, hv, (hlocation v _).1 hw⟩
  · rintro ⟨v, hv, hw⟩
    exact ⟨_, ⟨v, hv, rfl⟩, (hlocation v _).2 hw⟩

theorem alike_holdsDetail_only (v : Json) :
    Alike HoldsDetail (v.only ErrorDetail.fields) v := by
  cases v with
  | object ms =>
    refine alike_holdsDetail (f := id) (fun _ _ => Iff.rfl) (fun _ _ => Iff.rfl) ?_
    intro field hfield key hkey
    rw [Json.find?_only hfield hkey, Option.map_id, id]
  | _ => exact fun _ => Iff.rfl

theorem alike_holdsLocation_sorted (v : Json) : Alike HoldsLocation v.sorted v := by
  intro l
  cases v with
  | array | object =>
    constructor
    · intro h
      cases h
    · intro h
      cases h
  | _ => rfl

theorem ignoresOrder_holdsDetail {limit? : Option Nat} : IgnoresOrder limit? HoldsDetail := by
  intro v hv
  cases v with
  | object ms =>
    obtain ⟨ns, hns, hfind⟩ := Json.exists_sorted_object hv.keys
    rw [hns]
    refine alike_holdsDetail (fun _ _ => Json.sorted_eq_string_iff) alike_holdsLocation_sorted ?_
    intro field _ key _
    exact hfind key
  | array vs => simp [Alike, Json.sorted, HoldsDetail]
  | _ => exact fun _ => Iff.rfl

/-! ### Essences -/

/-- The fields that the shapes of a backend look for in the object that a response is. -/
def outerFields : Backend → List Field
  | .huggingFace | .tgi => Generation.fields ++ ErrorReply.fields
  | .ollama => OllamaReply.fields ++ ErrorReply.fields
  | .openAi => ChoicesReply.fields ++ DetailReply.fields

/-- A value without the fields that no shape of the backend names, in the objects that the shapes
look at: the value itself, and the items of an array that it is or has in a field. -/
def pruned (backend : Backend) (v : Json) : Json :=
  match backend with
  | .huggingFace | .tgi => (v.only (outerFields backend)).eachItem (Json.only Generation.fields)
  | .ollama => v.only (outerFields backend)
  | .openAi =>
    ((v.only (outerFields backend)).within ChoicesReply.choicesField.wire
        (Json.eachItem (Json.only [Choice.textField]))).within DetailReply.detailField.wire
      (Json.eachItem (Json.only ErrorDetail.fields))

/-- What is left of a value when fields without a name in the shapes and the order of members are
forgotten. -/
def essence (backend : Backend) (v : Json) : Json := pruned backend v.sorted

/-! ### Values that are taken for the same -/

def AlikeFor (backend : Backend) (v w : Json) : Prop :=
  match backend with
  | .huggingFace | .tgi =>
    Alike (HoldsGeneration (text "generated_text")) v w ∧
      Alike (Json.IsArrayOf (HoldsGeneration (text "generated_text"))) v w ∧
      Alike (Json.HasText (text "error")) v w
  | .ollama =>
    Alike (HoldsGeneration (text "response")) v w ∧ Alike (Json.HasText (text "error")) v w
  | .openAi =>
    Alike (Json.HasArrayOf (text "choices") (HoldsGeneration (text "text"))) v w ∧
      Alike (Json.HasArrayOf (text "detail") HoldsDetail) v w

theorem alike_holdsGeneration {key : Text} {v w : Json} (h : Alike (Json.HasText key) v w) :
    Alike (HoldsGeneration key) v w := fun g => h g.generatedText

theorem alikeFor_pruned (backend : Backend) (v : Json) : AlikeFor backend (pruned backend v) v := by
  have hitem {key : Text} {field : Field} {fields : List Field} (hfield : field ∈ fields)
      (hkey : key ∈ field.spellings) (v : Json) : Alike (HoldsGeneration key) (v.only fields) v :=
    alike_holdsGeneration (Json.alike_hasText_only hfield hkey v)
  cases backend with
  | huggingFace | tgi =>
    have htext {key : Text} {field : Field}
        (hfield : field ∈ Generation.fields ++ ErrorReply.fields) (hkey : key ∈ field.spellings) :
        Alike (Json.HasText key) ((v.only (Generation.fields ++ ErrorReply.fields)).eachItem
          (Json.only Generation.fields)) v :=
      (Json.alike_hasText_eachItem _).trans (Json.alike_hasText_only hfield hkey v)
    refine ⟨alike_holdsGeneration (htext (.head _) (.head _)), ?_,
      htext (.tail _ (.head _)) (.head _)⟩
    exact (Json.alike_isArrayOf_eachItem (hitem (.head _) (.head _)) _).trans
      (Json.alike_isArrayOf_only v)
  | ollama =>
    exact ⟨hitem (.head _) (.head _) v, Json.alike_hasText_only (.tail _ (.head _)) (.head _) v⟩
  | openAi =>
    have hchoice (w : Json) :
        Alike (HoldsGeneration (text "text")) (w.only [Choice.textField]) w :=
      hitem (.head _) (.head _) w
    refine ⟨(Json.alike_hasArrayOf_within_of_ne (by decide) _).trans ?_, ?_⟩
    · refine (Json.alike_hasArrayOf_within (Json.alike_isArrayOf_eachItem hchoice) _).trans ?_
      exact Json.alike_hasArrayOf_only (.head _) (.head _) v
    · have hitems := Json.alike_isArrayOf_eachItem alike_holdsDetail_only
      refine (Json.alike_hasArrayOf_within hitems _).trans ?_
      refine (Json.alike_hasArrayOf_within_of_ne (by decide) _).trans ?_
      exact Json.alike_hasArrayOf_only (.tail _ (.head _)) (.head _) v

theorem alikeFor_sorted (backend : Backend) {limit? : Option Nat} {v : Json}
    (hv : v.Orderly limit?) : AlikeFor backend v.sorted v := by
  have hgeneration (key : Text) : IgnoresOrder limit? (HoldsGeneration key) :=
    fun v hv => alike_holdsGeneration (IgnoresOrder.hasText v hv)
  cases backend with
  | huggingFace | tgi =>
    exact ⟨hgeneration _ v hv, (hgeneration _).isArrayOf v hv, IgnoresOrder.hasText v hv⟩
  | ollama => exact ⟨hgeneration _ v hv, IgnoresOrder.hasText v hv⟩
  | openAi => exact ⟨(hgeneration _).hasArrayOf v hv, ignoresOrder_holdsDetail.hasArrayOf v hv⟩

/-- A row that asks what a value holds fits two values alike with the same outcomes. -/
theorem row_iff_of_alike {α : Type} {holds : Json → α → Prop} {outcome : α → Outcome} {v w : Json}
    (h : Alike holds v w) (r : Outcome) :
    (∃ a, holds v a ∧ r = outcome a) ↔ ∃ a, holds w a ∧ r = outcome a :=
  exists_congr fun a => and_congr_left' (h a)

theorem row_iff_of_alikeFor {backend : Backend} {v w : Json} (h : AlikeFor backend v w)
    {size : Nat} {row : Row} (hrow : row ∈ table size backend) (r : Outcome) :
    row v r ↔ row w r := by
  cases backend with
  | huggingFace =>
    obtain ⟨hone, hmany, hfailure⟩ := h
    simp only [table, List.mem_cons, List.not_mem_nil, or_false] at hrow
    rcases hrow with rfl | rfl | rfl
    · exact row_iff_of_alike hone r
    · exact row_iff_of_alike hmany r
    · exact row_iff_of_alike hfailure r
  | tgi =>
    obtain ⟨hone, hmany, hfailure⟩ := h
    simp only [table, List.mem_cons, List.not_mem_nil, or_false] at hrow
    rcases hrow with rfl | rfl | rfl
    · exact row_iff_of_alike hone r
    · exact row_iff_of_alike hmany r
    · exact row_iff_of_alike hfailure r
  | ollama =>
    obtain ⟨hone, hfailure⟩ := h
    simp only [table, List.mem_cons, List.not_mem_nil, or_false] at hrow
    rcases hrow with rfl | rfl
    · exact row_iff_of_alike hone r
    · exact row_iff_of_alike hfailure r
  | openAi =>
    obtain ⟨hchoices, hdetail⟩ := h
    simp only [table, List.mem_cons, List.not_mem_nil, or_false] at hrow
    rcases hrow with rfl | rfl
    · exact row_iff_of_alike hchoices r
    · exact row_iff_of_alike hdetail r

theorem FirstFit.congr {otherwise : Outcome} {rows : List Row} {v w : Json} {r : Outcome}
    (h : ∀ row ∈ rows, ∀ r, row v r ↔ row w r) (hfit : FirstFit otherwise rows v r) :
    FirstFit otherwise rows w r := by
  induction hfit with
  | here hrow => exact .here ((h _ (.head _) _).1 hrow)
  | later hnot _ ih =>
    refine .later (fun r' hr' => hnot r' ((h _ (.head _) r').2 hr')) (ih ?_)
    exact fun row hrow => h row (.tail _ hrow)
  | none => exact .none

theorem classify_of_alikeFor {backend : Backend} {v w : Json} (h : AlikeFor backend v w)
    (size : Nat) : (classify backend size v).value = (classify backend size w).value := by
  have hfit := (firstFit_iff_classify size backend v _).2 rfl
  have hsame := hfit.congr fun row hrow r => row_iff_of_alikeFor h hrow r
  exact ((firstFit_iff_classify size backend w _).1 hsame).symm

theorem classify_essence (backend : Backend) (size : Nat) {limit? : Option Nat} {v : Json}
    (hv : v.Orderly limit?) :
    (classify backend size (essence backend v)).value = (classify backend size v).value :=
  (classify_of_alikeFor (alikeFor_pruned backend v.sorted) size).trans
    (classify_of_alikeFor (alikeFor_sorted backend hv) size)

theorem orderly_of_load {backend : Backend} {t : Text} {v : Json}
    (h : (load backend t).value = .ok v) : v.Orderly (some 4300) := by
  have hread : Json.read rules t = .ok v := by
    rw [Json.read, load_eq_ok_iff.1 h]
    rfl
  exact (Json.fits_of_read hread).orderly

/-- What a response comes to depends on its essence alone: two texts that are loaded as values of
one essence give the same generations in the same order, or fail with the same failure, but for the
size of the payload where it tells one. -/
theorem read_eq_of_essence_eq {selected? : Option Backend} {t u : Text} {v w : Json}
    (hv : (load (Backend.resolve selected?) t).value = .ok v)
    (hw : (load (Backend.resolve selected?) u).value = .ok w)
    (h : essence (Backend.resolve selected?) v = essence (Backend.resolve selected?) w) :
    (read selected? u).value =
      (read selected? t).value.mapError (Mishap.resized (payloadSize u)) := by
  apply read_resized hv hw
  intro size
  rw [← classify_essence _ size (orderly_of_load hv), h,
    classify_essence _ size (orderly_of_load hw)]

/-- The same list of errors with blanks, an escape, another order, a key that stands twice, and
fields of no shape at two levels. -/
theorem read_eq_of_essence_eq_rewritten :
    let t := text "\x7b\"detail\":[\x7b\"loc\":0,\"msg\":\"é\",\"type\":\"x\"\x7d]\x7d"
    let u := text ("\x7b \"id\":\x7b\x7d,\"detail\":[ \x7b\"type\":1,\"text\":\"b\"," ++
      "\"msg\":\"\\u00e9\",\"type\":\"x\",\"loc\":0\x7d]\x7d")
    let failure : Failure := .openAi [⟨.index 0, text "é", text "x"⟩]
    (read (some .openAi) t).value = .error (.failure failure) ∧
      (read (some .openAi) u).value = .error (.failure failure) := by
  intro t u failure
  let v : Json := .object [(text "detail", .array [.object [(text "loc", .int 0),
    (text "msg", .string (text "é")), (text "type", .string (text "x"))]])]
  let w : Json := .object [(text "id", .object []), (text "detail", .array [.object [
    (text "type", .string (text "x")), (text "text", .string (text "b")),
    (text "msg", .string (text "é")), (text "loc", .int 0)]])]
  have hv : (load (Backend.resolve (some .openAi)) t).value = .ok v := by
    unfold t v
    cbv
  have hw : (load (Backend.resolve (some .openAi)) u).value = .ok w := by
    unfold u w
    cbv
  have hessence : essence .openAi v = essence .openAi w := by rfl
  have hread : (read (some .openAi) t).value = .error (.failure failure) := by
    unfold t failure
    cbv
  refine ⟨hread, ?_⟩
  rw [read_eq_of_essence_eq hv hw hessence, hread]
  rfl

end Response

end CompletionWire
