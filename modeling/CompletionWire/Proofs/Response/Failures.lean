import CompletionWire.Proofs.Response.Classification
import CompletionWire.Proofs.Response.Loading

/-!
# How reading a response ends

A response gives generations, or it fails in one of the ways that its backend knows, and the failure
names this backend. The one other end is to give up for depth. It is reached by any text that opens
more levels than may be held before anything else stands in it, whether or not these are ever
closed.
-/

namespace CompletionWire

namespace Json.Reader

theorem skipBlanks_replicate_bracket (n : Nat) (t : Text) :
    skipBlanks (List.replicate (n + 1) (CodePoint.ofChar '[') ++ t) =
      List.replicate (n + 1) (CodePoint.ofChar '[') ++ t := by
  rw [List.replicate_succ, List.cons_append, skipBlanks_cons (by decide)]

/-- Opening brackets alone are too many as soon as one more is open than may be held. -/
theorem value_replicate_bracket (rules : Rules) (bound depth : Nat) (t : Text) :
    value rules (bound + 1) depth
      (List.replicate (depth + 1) (CodePoint.ofChar '[') ++ t) = .error .tooDeep := by
  induction depth with
  | zero => exact value_bracket rules (bound + 1) 0 t
  | succ depth ih =>
    rw [List.replicate_succ, List.cons_append, value_bracket]
    have hskip := skipBlanks_replicate_bracket depth t
    rcases array_cases (value rules (bound + 1) depth) (bound + 1)
      (List.replicate (depth + 1) (CodePoint.ofChar '[') ++ t) with ⟨rest, hclosed, -⟩ | harray
    · rw [hskip, List.replicate_succ, List.cons_append] at hclosed
      exact absurd (List.cons.inj hclosed).1 (by decide)
    · exact harray.trans (by rw [hskip, items, ih])

theorem document_replicate_bracket (rules : Rules) (t : Text) :
    document rules (List.replicate (rules.maxDepth + 1) (CodePoint.ofChar '[') ++ t) =
      .error .tooDeep := by
  have hmark : (List.replicate (rules.maxDepth + 1) (CodePoint.ofChar '[') ++ t).head? ≠
      some (CodePoint.ofNat 0xFEFF) := by
    rw [List.replicate_succ, List.cons_append, List.head?_cons]
    exact fun h => absurd (Option.some.inj h) (by decide)
  rw [document, if_neg hmark, skipBlanks_replicate_bracket, value_replicate_bracket]

end Json.Reader

namespace Response

/-! ### Failures -/

inductive Reports : Backend → Failure → Prop
  | huggingFace (error : Text) : Reports .huggingFace (.inferenceApi error)
  | tgi (error : Text) : Reports .tgi (.tgi error)
  | ollama (error : Text) : Reports .ollama (.ollama error)
  | openAi (detail : List ErrorDetail) : Reports .openAi (.openAi detail)

/-- How a response of some bytes may fail: it is not JSON, its shape is unknown, another backend's
service answers in the place of this one, or the backend reports a failure of its own. -/
inductive MayFail (size : Nat) : Backend → Failure → Prop
  | malformed (backend : Backend) : MayFail size backend (.malformedResponse backend size)
  | unexpectedShape (backend : Backend) : MayFail size backend (.unexpectedShape backend size none)
  | listOfGenerations : MayFail size .tgi (.listOfGenerations .tgi size)
  | reported {backend : Backend} {f : Failure} (h : Reports backend f) : MayFail size backend f

theorem backend?_of_mayFail {size : Nat} {backend : Backend} {f : Failure}
    (h : MayFail size backend f) : f.backend? = some backend := by
  cases h with
  | malformed | unexpectedShape | listOfGenerations => rfl
  | reported h => cases h <;> rfl

theorem exists_row_of_firstFit {otherwise : Outcome} {rows : List Row} {v : Json} {r : Outcome}
    (h : FirstFit otherwise rows v r) : r = otherwise ∨ ∃ row ∈ rows, row v r := by
  induction h with
  | here h => exact .inr ⟨_, List.mem_cons_self, h⟩
  | later _ _ ih => exact ih.imp_right fun ⟨row, hmem, hrow⟩ => ⟨row, .tail _ hmem, hrow⟩
  | none => exact .inl rfl

theorem mayFail_of_row {size : Nat} {backend : Backend} {row : Row} (hrow : row ∈ table size backend)
    {v : Json} {f : Failure} (h : row v (.error f)) : MayFail size backend f := by
  have hfailure {key : String} {report : Text → Failure}
      (hreports : ∀ e, MayFail size backend (report e)) (h : Row.failure key report v (.error f)) :
      MayFail size backend f := by
    obtain ⟨e, -, heq⟩ := h
    exact Except.error.inj heq ▸ hreports e
  cases backend with
  | huggingFace =>
    simp only [table, List.mem_cons, List.not_mem_nil, or_false] at hrow
    rcases hrow with rfl | rfl | rfl
    · obtain ⟨g, -, heq⟩ := h
      cases heq
    · obtain ⟨gs, -, heq⟩ := h
      cases heq
    · exact hfailure (fun e => .reported (.huggingFace e)) h
  | tgi =>
    simp only [table, List.mem_cons, List.not_mem_nil, or_false] at hrow
    rcases hrow with rfl | rfl | rfl
    · obtain ⟨g, -, heq⟩ := h
      cases heq
    · obtain ⟨gs, -, heq⟩ := h
      exact Except.error.inj heq ▸ .listOfGenerations
    · exact hfailure (fun e => .reported (.tgi e)) h
  | ollama =>
    simp only [table, List.mem_cons, List.not_mem_nil, or_false] at hrow
    rcases hrow with rfl | rfl
    · obtain ⟨g, -, heq⟩ := h
      cases heq
    · exact hfailure (fun e => .reported (.ollama e)) h
  | openAi =>
    simp only [table, List.mem_cons, List.not_mem_nil, or_false] at hrow
    rcases hrow with rfl | rfl
    · obtain ⟨gs, -, heq⟩ := h
      cases heq
    · obtain ⟨ds, -, heq⟩ := h
      exact Except.error.inj heq ▸ .reported (.openAi ds)

theorem mayFail_of_classify {size : Nat} {backend : Backend} {v : Json} {f : Failure}
    (h : (classify backend size v).value = .error f) : MayFail size backend f := by
  rcases exists_row_of_firstFit ((firstFit_iff_classify size backend v _).2 h) with
    heq | ⟨row, hmem, hrow⟩
  · exact Except.error.inj heq ▸ .unexpectedShape backend
  · exact mayFail_of_row hmem hrow

/-! ### Reading -/

theorem read_value_of_load_error {selected? : Option Backend} {t : Text} {m : Mishap}
    (h : (load (Backend.resolve selected?) t).value = .error m) :
    (read selected? t).value = .error m := by
  simp only [read, Logged.andThen, h]
  rfl

theorem read_value_replicate_bracket (selected? : Option Backend) (t : Text) :
    (read selected? (List.replicate (rules.maxDepth + 1) (CodePoint.ofChar '[') ++ t)).value =
      .error (.abort .tooDeep) :=
  read_value_of_load_error (load_eq_tooDeep_iff.2 (Json.Reader.document_replicate_bracket rules t))

/-- Reading a response ends with generations, or with a failure that the selected backend may have
and that names it, or for a text that nests deeper than may be held by giving up. It does give up
where one bracket more than may be held stands at the beginning, whatever follows. -/
theorem read_ends (selected? : Option Backend) (t : Text) :
    ((∃ gs, (read selected? t).value = .ok gs) ∨
      (∃ f, (read selected? t).value = .error (.failure f) ∧
        MayFail (payloadSize t) (Backend.resolve selected?) f ∧
        f.backend? = some (Backend.resolve selected?)) ∨
      ((read selected? t).value = .error (.abort .tooDeep) ∧ rules.maxDepth < Json.nesting t)) ∧
    (read selected? (List.replicate (rules.maxDepth + 1) (CodePoint.ofChar '[') ++ t)).value =
      .error (.abort .tooDeep) := by
  refine ⟨?_, read_value_replicate_bracket selected? t⟩
  rcases load_cases (Backend.resolve selected?) t with ⟨v, hv⟩ | hdeep | hmalformed
  · have hread := read_value_of_load hv
    cases hclassify : (classify (Backend.resolve selected?) (payloadSize t) v).value with
    | ok gs =>
      rw [hclassify] at hread
      exact .inl ⟨gs, hread⟩
    | error f =>
      rw [hclassify] at hread
      have hfail := mayFail_of_classify hclassify
      exact .inr (.inl ⟨f, hread, hfail, backend?_of_mayFail hfail⟩)
  · have hlt := Json.Reader.lt_nesting_of_document rfl (load_eq_tooDeep_iff.1 hdeep)
    exact .inr (.inr ⟨read_value_of_load_error hdeep, hlt⟩)
  · exact .inr (.inl ⟨_, read_value_of_load_error hmalformed, .malformed _, rfl⟩)

/-- Five thousand brackets that are never closed are not reported as malformed. -/
theorem read_brackets_aborts :
    let t : Text := List.replicate 5000 (CodePoint.ofChar '[')
    (read (some .tgi) t).value = .error (.abort .tooDeep) ∧
      (∀ gs, (read (some .tgi) t).value ≠ .ok gs) ∧
      ∀ f, (read (some .tgi) t).value ≠ .error (.failure f) := by
  intro t
  have habort : (read (some .tgi) t).value = .error (.abort .tooDeep) := by
    have hsplit : t = List.replicate 991 (CodePoint.ofChar '[') ++
        List.replicate 4009 (CodePoint.ofChar '[') := List.replicate_add 991 4009 _
    rw [hsplit]
    exact read_value_replicate_bracket (some .tgi) _
  refine ⟨habort, fun gs hgs => ?_, fun f hf => ?_⟩
  · rw [habort] at hgs
    cases hgs
  · rw [habort] at hf
    cases hf

end Response

end CompletionWire
