import CompletionWire.Proofs.Except
import CompletionWire.Response.ContentType
import Mathlib.Tactic.SplitIfs

/-!
# The charset of a content type

All segments of all parameters are put in order before the charset is looked up, and this may fail
whatever parameter they belong to. If it does not, a charset in a plain parameter counts, and UTF-8
does where there is no charset at all.
-/

namespace CompletionWire

namespace ContentType

/-! ### Segments without order -/

/-- Why segments have no order: the number of one of them has too many digits, or some segments of a
parameter are numbered and others are not. -/
inductive Disorder : Mishap → Prop
  | digits {count : Nat} (h : Numeral.maxDigits < count) :
      Disorder (.rejection (.tooManyDigits (some count)))
  | numbers (numberedFirst : Bool) : Disorder (.abort (.charset (.unevenSegments numberedFirst)))

variable {m : Mishap}

theorem disorder_of_number? {digits : Text} (h : number? digits = .error m) : Disorder m := by
  rw [number?] at h
  split_ifs at h with _ hcount
  exact Except.error.inj h ▸ .digits hcount

theorem disorder_of_segment? {p : Text × Text} (h : segment? p = .error m) : Disorder m := by
  rw [segment?] at h
  split at h
  · cases h
  · exact disorder_of_number? (eq_error_of_map h)

theorem disorder_of_sorted {segments : List Segment} (h : sorted segments = .error m) :
    Disorder m := by
  cases segments with
  | nil => cases h
  | cons first rest =>
    simp only [sorted] at h
    split_ifs at h
    exact Except.error.inj h ▸ .numbers _

theorem disorder_of_grouped {segments : List (Text × Segment)}
    (h : grouped segments = .error m) : Disorder m := by
  obtain ⟨stem, -, hstem⟩ := exists_of_mapM_eq_error h
  exact disorder_of_sorted (eq_error_of_map hstem)

/-- Nothing else keeps the parameters of a content type from being told apart. -/
theorem disorder_of_parameters {contentType : Text} (h : parameters contentType = .error m) :
    Disorder m := by
  rw [parameters] at h
  cases hlisted : listed contentType with
  | nil =>
    rw [hlisted] at h
    cases h
  | cons first rest =>
    simp only [hlisted] at h
    rcases of_bind_eq_error h with hsegments | ⟨segments, -, h⟩
    · obtain ⟨p, -, hp⟩ := exists_of_mapM_eq_error hsegments
      exact disorder_of_segment? hp
    rcases of_bind_eq_error h with hgroups | ⟨groups, -, h⟩
    · exact disorder_of_grouped hgroups
    · cases h

/-! ### Parameters in order -/

theorem star_mem_of_marked? {name stem digits : Text} {isEscaped : Bool}
    (h : marked? name = some (stem, digits, isEscaped)) : star ∈ name := by
  obtain ⟨rest, hrest, -⟩ := Option.bind_eq_some_iff.1 h
  rw [Text.eq_append_of_dropStart? hrest]
  simp

theorem marked?_of_isNamed {name : Text} (hname : star ∉ name) {p : Text × Text}
    (hp : isNamed name p = true) : marked? p.1 = none := by
  cases hmarked : marked? p.1 with
  | none => rfl
  | some found =>
    refine absurd ?_ hname
    rw [← of_decide_eq_true hp]
    exact List.mem_map.2 ⟨star, star_mem_of_marked? hmarked, rfl⟩

variable {contentType : Text} {plain : List (Text × Text)} {groups : List (Text × List Segment)}

theorem find?_plain (h : parameters contentType = .ok (plain, groups)) {name : Text}
    (hname : star ∉ name) : plain.find? (isNamed name) = (listed contentType).find? (isNamed name) := by
  rw [parameters] at h
  cases hlisted : listed contentType with
  | nil =>
    rw [hlisted] at h
    cases h
    rfl
  | cons first rest =>
    simp only [hlisted] at h
    obtain ⟨segments, -, h⟩ := exists_of_bind_eq_ok h
    obtain ⟨groups', -, h⟩ := exists_of_bind_eq_ok h
    cases h
    have hfilter : (fun p => decide ((marked? p.1).isNone = true ∧ isNamed name p = true)) =
        isNamed name := by
      funext p
      cases hp : isNamed name p with
      | false => simp
      | true => simp [marked?_of_isNamed hname hp]
    rw [List.find?_cons, List.find?_cons, List.find?_filter, hfilter]

theorem exists_marked_of_mem_groups (h : parameters contentType = .ok (plain, groups))
    {g : Text × List Segment} (hg : g ∈ groups) :
    ∃ p ∈ listed contentType, (marked? p.1).map Prod.fst = some g.1 := by
  rw [parameters] at h
  cases hlisted : listed contentType with
  | nil =>
    rw [hlisted] at h
    cases h
    cases hg
  | cons first rest =>
    simp only [hlisted] at h
    obtain ⟨segments, hsegments, h⟩ := exists_of_bind_eq_ok h
    obtain ⟨groups', hgroups, h⟩ := exists_of_bind_eq_ok h
    cases h
    obtain ⟨stem, hstem, hgroup⟩ := exists_of_mem_mapM hgroups hg
    obtain ⟨group, -, rfl⟩ := exists_of_map_eq_ok hgroup
    obtain ⟨⟨_, segment⟩, hsegment, rfl⟩ := List.mem_map.1 (List.mem_eraseDups.1 hstem)
    obtain ⟨found, hfound, rfl⟩ := List.mem_filterMap.1 hsegment
    obtain ⟨p, hp, hsegment?⟩ := exists_of_mem_mapM hsegments hfound
    refine ⟨p, List.mem_cons_of_mem _ hp, ?_⟩
    rw [segment?] at hsegment?
    split at hsegment?
    · cases hsegment?
    · obtain ⟨number?, -, heq⟩ := exists_of_map_eq_ok hsegment?
      cases heq
      simp [*]

/-! ### UTF-8 -/

theorem charsetOf_of_normalName {name : Text} (hname : Charset.normalName name = text "utf_8")
    (hnul : name.contains (CodePoint.ofNat 0) = false) : charsetOf name = .ok (.utf8 false) := by
  have hfound : Charset.ofName? name = some (.utf8 false) := by
    rw [Charset.ofName?, hname]
    rfl
  rw [charsetOf, hnul, hfound, Option.getD_some, if_neg Bool.false_ne_true, ite_self]

/-- The content type says that it is UTF-8: the first plain charset in it is, or is not known, or it
says nothing of a charset. -/
inductive SaysUtf8 (contentType? : Option Text) : Prop
  | named {p : Text × Text}
      (hp : (listed (contentType?.getD [])).find? (isNamed (text "charset")) = some p)
      (h : charsetOf (unquote p.2) = .ok (.utf8 false))
  | unnamed (h : ∀ p ∈ listed (contentType?.getD []), isNamed (text "charset") p = false ∧
      (marked? p.1).map (·.1.map CodePoint.asciiLower) ≠ some (text "charset"))

/-- Nothing but the order of segments keeps a response in UTF-8 from being read as such. -/
theorem charset_of_saysUtf8 {contentType? : Option Text} (h : SaysUtf8 contentType?)
    (hparameters : parameters (contentType?.getD []) = .ok (plain, groups)) :
    charset contentType? = .ok (.utf8 false) := by
  have hname : star ∉ text "charset" := by decide
  have hplain := find?_plain hparameters hname
  cases h with
  | named hp h =>
    rw [hp] at hplain
    simpa only [charset, value?, hparameters, bind, Except.bind, hplain, pure, Except.pure] using h
  | unnamed h =>
    have hnone : (listed (contentType?.getD [])).find? (isNamed (text "charset")) = none :=
      List.find?_eq_none.2 fun p hp => Bool.eq_false_iff.1 (h p hp).1
    have hgroups :
        groups.find? (fun g => decide (g.1.map CodePoint.asciiLower = text "charset")) = none := by
      refine List.find?_eq_none.2 fun g hg hcharset => ?_
      obtain ⟨p, hp, hmarked⟩ := exists_marked_of_mem_groups hparameters hg
      obtain ⟨found, hfound, hstem⟩ := Option.map_eq_some_iff.1 hmarked
      refine (h p hp).2 ?_
      rw [hfound, Option.map_some, hstem, of_decide_eq_true hcharset]
    rw [hnone] at hplain
    simp only [charset, value?, hparameters, bind, Except.bind, hplain, hgroups, pure, Except.pure]

theorem eq_of_whole_error {segments : List Segment} (h : whole segments = .error m) :
    m = .ofCharsetFault .nulInName := by
  simp only [whole, joined] at h
  split_ifs at h <;> exact (Except.error.inj h).symm

theorem eq_of_charsetOf_error {name : Text} (h : charsetOf name = .error m) :
    m = .ofCharsetFault .nulInName := by
  rw [charsetOf] at h
  split_ifs at h
  exact (Except.error.inj h).symm

/-- The charset of a content type is known unless segments have no order or its name holds a NUL. -/
theorem charset_error_cases {contentType? : Option Text} (h : charset contentType? = .error m) :
    Disorder m ∨ m = .ofCharsetFault .nulInName := by
  rcases of_bind_eq_error h with hvalue | ⟨value?, -, h⟩
  · rcases of_bind_eq_error hvalue with hparameters | ⟨⟨plain, groups⟩, -, h⟩
    · exact .inl (disorder_of_parameters hparameters)
    · dsimp only at h
      split at h
      · cases h
      · split at h
        · rcases of_bind_eq_error h with hwhole | ⟨value, -, h⟩
          · exact .inr (eq_of_whole_error hwhole)
          · cases h
        · cases h
  · cases value? with
    | some name => exact .inr (eq_of_charsetOf_error h)
    | none => cases h

theorem charset_of_parameters_error {contentType? : Option Text}
    (h : parameters (contentType?.getD []) = .error m) : charset contentType? = .error m := by
  simp only [charset, value?, h, bind, Except.bind]

end ContentType

end CompletionWire
