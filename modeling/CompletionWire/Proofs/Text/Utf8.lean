import CompletionWire.Text.Charset
import Mathlib.Data.List.TakeWhile
import Mathlib.Tactic.SplitIfs

/-!
# Bytes of texts

A text without surrogates has bytes under the strict encoder, and the machine that cuts bytes into
segments gives its code points back, none of them ill-formed. Each code point brings the machine
from one place where a code point may begin to the next.
-/

namespace CompletionWire

theorem CodePoint.utf8_ne_nil (c : CodePoint) : c.utf8 ≠ [] := by
  unfold CodePoint.utf8
  split_ifs <;> exact List.cons_ne_nil _ _

namespace Text

theorem utf8_eq_nil_iff {t : Text} : t.utf8 = [] ↔ t = [] := by
  cases t with
  | nil => exact iff_of_true rfl rfl
  | cons c t => simp [utf8, CodePoint.utf8_ne_nil]

def IsUnicode (t : Text) : Prop := ∀ c ∈ t, c.isSurrogate = false

instance (t : Text) : Decidable t.IsUnicode := inferInstanceAs (Decidable (∀ c ∈ t, _))

theorem loneSurrogates?_eq_none_iff {t : Text} : t.loneSurrogates? = none ↔ t.IsUnicode := by
  have hdrop : t.dropWhile (!·.isSurrogate) = [] ↔ t.IsUnicode := by
    simp [List.dropWhile_eq_nil_iff, IsUnicode]
  rw [← hdrop, loneSurrogates?]
  split <;> simp_all

theorem encode?_eq_ok_iff {t : Text} {bytes : Bytes} :
    t.encode? = .ok bytes ↔ t.IsUnicode ∧ t.utf8 = bytes := by
  rw [← loneSurrogates?_eq_none_iff, encode?]
  cases t.loneSurrogates? with
  | none => simp
  | some run => simp

end Text

namespace Utf8

theorem toNat_ofNat {n : Nat} (h : n < 256) : (UInt8.ofNat n).toNat = n := by
  rw [UInt8.toNat_ofNat', Nat.mod_eq_of_lt h]

/-! ### Leading bytes -/

theorem lead?_two {b : UInt8} (hlow : 0xC2 ≤ b.toNat) (hhigh : b.toNat < 0xE0) :
    lead? false b = some { following := 1, bits := b.toNat - 0xC0 } := by
  unfold lead?
  rw [if_neg (by omega), if_neg (by omega), if_pos hhigh]

theorem lead?_three {b : UInt8} (hlow : 0xE0 ≤ b.toNat) (hhigh : b.toNat < 0xF0) :
    lead? false b = some {
      following := 2
      low := if b.toNat = 0xE0 then 0xA0 else 0x80
      high := if b.toNat = 0xED then 0x9F else 0xBF
      bits := b.toNat - 0xE0 } := by
  unfold lead?
  rw [if_neg (by omega), if_neg (by omega), if_neg (by omega)]
  by_cases hfirst : b.toNat = 0xE0
  · simp [hfirst]
  · by_cases hsurrogate : b.toNat = 0xED
    · simp [hsurrogate]
    · simp [hfirst, hsurrogate, hhigh]

theorem lead?_four {b : UInt8} (hlow : 0xF0 ≤ b.toNat) (hhigh : b.toNat ≤ 0xF4) :
    lead? false b = some {
      following := 3
      low := if b.toNat = 0xF0 then 0x90 else 0x80
      high := if b.toNat = 0xF4 then 0x8F else 0xBF
      bits := b.toNat - 0xF0 } := by
  unfold lead?
  rw [if_neg (by omega), if_neg (by omega), if_neg (by omega), if_neg (by omega), if_neg (by omega),
    if_neg (by omega)]
  by_cases hfirst : b.toNat = 0xF0
  · simp [hfirst]
  · by_cases hlast : b.toNat = 0xF4
    · simp [hlast]
    · have hbetween : b.toNat < 0xF4 := by omega
      simp [hfirst, hlast, hbetween]

/-! ### One code point -/

section Step

variable {found : List Segment} {lead : Lead} {taken : Bytes} {n : Nat}

theorem step_lead {b : UInt8} (hlead : lead? false b = some lead) (hmore : lead.following ≠ 0) :
    State.step false ⟨found, none⟩ b = ⟨found, some (lead, [b])⟩ := by
  simp [State.step, State.begin, hlead, hmore]

theorem toNat_following (n : Nat) : (UInt8.ofNat (0x80 + n % 0x40)).toNat = 0x80 + n % 0x40 :=
  toNat_ofNat (by omega)

theorem step_following (hlow : lead.low ≤ 0x80 + n % 0x40) (hhigh : 0x80 + n % 0x40 ≤ lead.high)
    (hmore : lead.following ≠ 1) :
    State.step false ⟨found, some (lead, taken)⟩ (UInt8.ofNat (0x80 + n % 0x40)) =
      ⟨found, some ({ following := lead.following - 1, bits := lead.bits * 0x40 + n % 0x40 },
        UInt8.ofNat (0x80 + n % 0x40) :: taken)⟩ := by
  have hbits : (0x80 + n % 0x40) % 0x40 = n % 0x40 := by omega
  rw [State.step]
  simp only [toNat_following, hbits]
  rw [if_pos ⟨hlow, hhigh⟩, if_neg hmore]

theorem step_last (hlow : lead.low ≤ 0x80 + n % 0x40) (hhigh : 0x80 + n % 0x40 ≤ lead.high)
    (hlast : lead.following = 1) :
    State.step false ⟨found, some (lead, taken)⟩ (UInt8.ofNat (0x80 + n % 0x40)) =
      ⟨.scalar (CodePoint.ofNat (lead.bits * 0x40 + n % 0x40)) :: found, none⟩ := by
  have hbits : (0x80 + n % 0x40) % 0x40 = n % 0x40 := by omega
  rw [State.step]
  simp only [toNat_following, hbits]
  rw [if_pos ⟨hlow, hhigh⟩, if_pos hlast]

end Step

theorem foldl_step_utf8 {c : CodePoint} (hc : c.isSurrogate = false) (found : List Segment) :
    c.utf8.foldl (State.step false) ⟨found, none⟩ = ⟨.scalar c :: found, none⟩ := by
  have hlt := c.val_lt
  have hscalar : c.val < 0xD800 ∨ 0xDFFF < c.val := by
    simp only [CodePoint.isSurrogate, Bool.and_eq_false_iff, decide_eq_false_iff_not] at hc
    omega
  have hfound {n : Nat} (hn : n = c.val) :
      State.mk (.scalar (CodePoint.ofNat n) :: found) none = ⟨.scalar c :: found, none⟩ := by
    rw [hn, CodePoint.ofNat_val]
  rw [CodePoint.utf8]
  split_ifs with hone htwo hthree
  · have hbyte := toNat_ofNat (n := c.val) (by omega)
    simp [State.step, State.begin, lead?, hbyte, hone, CodePoint.ofNat_val]
  · have hbyte := toNat_ofNat (n := 0xC0 + c.val / 0x40) (by omega)
    have hlead := lead?_two (b := UInt8.ofNat (0xC0 + c.val / 0x40)) (by omega) (by omega)
    rw [hbyte] at hlead
    rw [List.foldl_cons, step_lead hlead (Nat.succ_ne_zero _), List.foldl_cons,
      step_last (Nat.le_add_right _ _) (by simp only; omega) rfl]
    exact hfound (by simp only; omega)
  · have hbyte := toNat_ofNat (n := 0xE0 + c.val / 0x1000) (by omega)
    have hlead := lead?_three (b := UInt8.ofNat (0xE0 + c.val / 0x1000)) (by omega) (by omega)
    rw [hbyte] at hlead
    rw [List.foldl_cons, step_lead hlead (Nat.succ_ne_zero _), List.foldl_cons, step_following,
      List.foldl_cons, step_last (Nat.le_add_right _ _) (by simp only; omega) rfl]
    · exact hfound (by simp only; omega)
    · simp only
      split_ifs <;> omega
    · simp only
      split_ifs <;> omega
    · simp
  · have hbyte := toNat_ofNat (n := 0xF0 + c.val / 0x40000) (by omega)
    have hlead := lead?_four (b := UInt8.ofNat (0xF0 + c.val / 0x40000)) (by omega) (by omega)
    rw [hbyte] at hlead
    rw [List.foldl_cons, step_lead hlead (Nat.succ_ne_zero _), List.foldl_cons, step_following,
      List.foldl_cons, step_following (Nat.le_add_right _ _) (by simp only; omega) (by simp),
      List.foldl_cons, step_last (Nat.le_add_right _ _) (by simp only; omega) rfl]
    · exact hfound (by simp only; omega)
    · simp only
      split_ifs <;> omega
    · simp only
      split_ifs <;> omega
    · simp

/-! ### Texts -/

theorem segments_utf8 {t : Text} (ht : t.IsUnicode) : segments false t.utf8 = t.map .scalar := by
  have hrun (found : List Segment) :
      t.utf8.foldl (State.step false) ⟨found, none⟩ = ⟨(t.map .scalar).reverse ++ found, none⟩ := by
    induction t generalizing found with
    | nil => rfl
    | cons c t ih =>
      obtain ⟨hc, ht⟩ := List.forall_mem_cons.1 ht
      rw [Text.utf8, List.flatMap_cons, List.foldl_append, foldl_step_utf8 hc]
      refine (ih ht _).trans ?_
      rw [List.map_cons, List.reverse_cons, List.append_assoc, List.singleton_append]
  rw [segments, hrun, List.append_nil, State.finish, List.reverse_reverse]

theorem decodeEscaping_utf8 {t : Text} (ht : t.IsUnicode) : decodeEscaping t.utf8 = t := by
  rw [decodeEscaping, segments_utf8 ht, List.flatMap_map]
  exact List.flatMap_singleton' t

theorem collect_scalars (offset : Nat) (found t : Text) :
    collect offset found (t.map .scalar) = .ok (found.reverse ++ t) := by
  induction t generalizing offset found with
  | nil => rw [List.append_nil]; rfl
  | cons c t ih => rw [List.map_cons, collect, ih, List.reverse_cons, List.append_assoc]; rfl

theorem eq_map_of_collect {offset : Nat} {found t : Text} {segments : List Segment}
    (h : collect offset found segments = .ok t) :
    ∃ u, segments = u.map .scalar ∧ t = found.reverse ++ u := by
  induction segments generalizing offset found with
  | nil => exact ⟨[], rfl, by rw [List.append_nil]; exact (Except.ok.inj h).symm⟩
  | cons segment segments ih =>
    cases segment with
    | scalar c =>
      obtain ⟨u, rfl, rfl⟩ := ih h
      exact ⟨c :: u, rfl, by rw [List.reverse_cons, List.append_assoc]; rfl⟩
    | illFormed bytes flaw => cases h

/-- Where a strict decoder succeeds, nothing is escaped. -/
theorem decodeEscaping_of_decode? {bytes : Bytes} {t : Text} (h : decode? false bytes = .ok t) :
    decodeEscaping bytes = t := by
  obtain ⟨u, hsegments, ht⟩ := eq_map_of_collect h
  rw [ht, decodeEscaping, hsegments, List.flatMap_map]
  exact List.flatMap_singleton' u

theorem decode?_utf8 {t : Text} (ht : t.IsUnicode) : decode? false t.utf8 = .ok t := by
  rw [decode?, segments_utf8 ht, collect_scalars]
  rfl

end Utf8

/-- The bytes of a text without surrogates are read as this text. -/
theorem Charset.decodeReplacing_utf8 {t : Text} (ht : t.IsUnicode) :
    Charset.decodeReplacing (.utf8 false) t.utf8 = .ok t := by
  have hsegments := Utf8.segments_utf8 ht
  rw [decodeReplacing]
  split_ifs with hempty
  · rw [List.isEmpty_iff.1 hempty] at hsegments
    rw [List.map_eq_nil_iff.1 hsegments.symm]
  · rw [decode, if_neg (by decide), decodeUtf8, hsegments]
    simp [Except.map, Function.comp_def]

end CompletionWire
