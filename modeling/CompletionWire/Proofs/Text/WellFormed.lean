import CompletionWire.Proofs.Text.Utf8
import Mathlib.Tactic.Ring

/-!
# Bytes that are texts

Cutting bytes into segments loses none of them: an ill-formed segment keeps its bytes, and the code
point of any other segment has just the bytes that it was cut from. Bytes that a strict decoder
accepts are therefore the bytes of their text and of no other, so that a text is as long in bytes as
what it was decoded from.
-/

namespace CompletionWire

namespace Utf8

def Segment.bytes : Segment → Bytes
  | .scalar c => c.utf8
  | .illFormed bytes _ => bytes

/-! ### Promises -/

/-- The last `k` bytes of the code point numbered `n`. -/
def lastBytes : (k n : Nat) → Bytes
  | 0, _ => []
  | k + 1, n => lastBytes k (n / 0x40) ++ [UInt8.ofNat (0x80 + n % 0x40)]

theorem lastBytes_succ {k d y : Nat} (hd : d < 0x40) (hy : y < 0x40 ^ k) :
    lastBytes (k + 1) (d * 0x40 ^ k + y) = UInt8.ofNat (0x80 + d) :: lastBytes k y := by
  induction k generalizing y with
  | zero =>
    have hdigit : (d * 0x40 ^ 0 + y) % 0x40 = d := by omega
    show lastBytes 0 _ ++ [UInt8.ofNat (0x80 + (d * 0x40 ^ 0 + y) % 0x40)] = _
    rw [hdigit]
    rfl
  | succ k ih =>
    have hpow : d * 0x40 ^ (k + 1) = d * 0x40 ^ k * 0x40 := by rw [Nat.pow_succ, Nat.mul_assoc]
    have hfront : (d * 0x40 ^ (k + 1) + y) / 0x40 = d * 0x40 ^ k + y / 0x40 := by omega
    have hdigit : (d * 0x40 ^ (k + 1) + y) % 0x40 = y % 0x40 := by omega
    have hless : y / 0x40 < 0x40 ^ k := by
      rw [Nat.pow_succ] at hy
      omega
    show lastBytes (k + 1) _ ++ [UInt8.ofNat (0x80 + (d * 0x40 ^ (k + 1) + y) % 0x40)] = _
    rw [hfront, hdigit, ih hless]
    rfl

/-- Bytes with the bits that they bring: any `k` more bits of six make them a code point. -/
def Promises (taken : Bytes) (bits k : Nat) : Prop :=
  ∀ y < 0x40 ^ k, (CodePoint.ofNat (bits * 0x40 ^ k + y)).isSurrogate = false ∧
    (CodePoint.ofNat (bits * 0x40 ^ k + y)).utf8 = taken ++ lastBytes k y

/-- Any byte within the bounds of a lead keeps what the lead promises. -/
structure Awaits (lead : Lead) (taken : Bytes) : Prop where
  more : lead.following ≠ 0
  low : 0x80 ≤ lead.low
  high : lead.high ≤ 0xBF
  promises : ∀ b : UInt8, lead.low ≤ b.toNat → b.toNat ≤ lead.high →
    Promises (taken.reverse ++ [b]) (lead.bits * 0x40 + b.toNat % 0x40) (lead.following - 1)

theorem promises_of_promises_succ {taken : Bytes} {bits k : Nat}
    (h : Promises taken bits (k + 1)) {b : UInt8} (hlow : 0x80 ≤ b.toNat) (hhigh : b.toNat ≤ 0xBF) :
    Promises (taken ++ [b]) (bits * 0x40 + b.toNat % 0x40) k := by
  intro y hy
  have hdigit : b.toNat % 0x40 < 0x40 := Nat.mod_lt _ (by decide)
  have hnumber : (bits * 0x40 + b.toNat % 0x40) * 0x40 ^ k + y =
      bits * 0x40 ^ (k + 1) + (b.toNat % 0x40 * 0x40 ^ k + y) := by ring
  have hless : b.toNat % 0x40 * 0x40 ^ k + y < 0x40 ^ (k + 1) := by
    have := Nat.mul_le_mul_right (0x40 ^ k) (Nat.le_of_lt_succ hdigit)
    rw [Nat.pow_succ]
    omega
  have hbyte : UInt8.ofNat (0x80 + b.toNat % 0x40) = b := by
    have hsame : 0x80 + b.toNat % 0x40 = b.toNat := by omega
    rw [hsame, UInt8.ofNat_toNat]
  obtain ⟨hunicode, hbytes⟩ := h _ hless
  rw [hnumber]
  refine ⟨hunicode, ?_⟩
  rw [hbytes, lastBytes_succ hdigit hy, hbyte, List.append_assoc]
  rfl

theorem Awaits.next {lead : Lead} {taken : Bytes} (h : Awaits lead taken) {b : UInt8}
    (hlow : lead.low ≤ b.toNat) (hhigh : b.toNat ≤ lead.high) (hlast : lead.following ≠ 1) :
    Awaits { following := lead.following - 1, bits := lead.bits * 0x40 + b.toNat % 0x40 }
      (b :: taken) := by
  have hmore := h.more
  obtain ⟨k, hk⟩ : ∃ k, lead.following - 1 = k + 1 := ⟨lead.following - 2, by omega⟩
  refine ⟨by simp only; omega, Nat.le_refl _, Nat.le_refl _, fun b' hlow' hhigh' => ?_⟩
  have hpromise := h.promises b hlow hhigh
  rw [hk] at hpromise
  simp only [hk, List.reverse_cons, Nat.add_sub_cancel]
  exact promises_of_promises_succ hpromise hlow' hhigh'

theorem Awaits.last {lead : Lead} {taken : Bytes} (h : Awaits lead taken) {b : UInt8}
    (hlow : lead.low ≤ b.toNat) (hhigh : b.toNat ≤ lead.high) (hlast : lead.following = 1) :
    (CodePoint.ofNat (lead.bits * 0x40 + b.toNat % 0x40)).isSurrogate = false ∧
      (CodePoint.ofNat (lead.bits * 0x40 + b.toNat % 0x40)).utf8 = taken.reverse ++ [b] := by
  have hpromise := h.promises b hlow hhigh
  rw [hlast] at hpromise
  simpa [lastBytes] using hpromise 0 (by decide)

/-! ### Leading bytes -/

section Lead

variable {b b' : UInt8}

theorem promises_two (hlow : 0xC2 ≤ b.toNat) (hhigh : b.toNat < 0xE0) (hlow' : 0x80 ≤ b'.toNat)
    (hhigh' : b'.toNat ≤ 0xBF) :
    Promises [b, b'] ((b.toNat - 0xC0) * 0x40 + b'.toNat % 0x40) 0 := by
  intro y hy
  generalize hn : ((b.toNat - 0xC0) * 0x40 + b'.toNat % 0x40) * 0x40 ^ 0 + y = n
  have hval : (CodePoint.ofNat n).val = n := CodePoint.val_ofNat (by omega)
  have hfirst : 0xC0 + n / 0x40 = b.toNat := by omega
  have hsecond : 0x80 + n % 0x40 = b'.toNat := by omega
  constructor
  · simp only [CodePoint.isSurrogate, hval, Bool.and_eq_false_iff, decide_eq_false_iff_not]
    omega
  · rw [CodePoint.utf8, hval, if_neg (by omega), if_pos (by omega), hfirst, hsecond,
      UInt8.ofNat_toNat, UInt8.ofNat_toNat]
    rfl

/-- Bounds on the second byte keep out numbers that two bytes are enough for, and surrogates. -/
theorem promises_three (hlow : 0xE0 ≤ b.toNat) (hhigh : b.toNat < 0xF0) (hlow' : 0x80 ≤ b'.toNat)
    (hhigh' : b'.toNat ≤ 0xBF) (hshort : b.toNat = 0xE0 → 0xA0 ≤ b'.toNat)
    (hsurrogate : b.toNat = 0xED → b'.toNat ≤ 0x9F) :
    Promises [b, b'] ((b.toNat - 0xE0) * 0x40 + b'.toNat % 0x40) 1 := by
  intro y hy
  generalize hn : ((b.toNat - 0xE0) * 0x40 + b'.toNat % 0x40) * 0x40 ^ 1 + y = n
  have hval : (CodePoint.ofNat n).val = n := CodePoint.val_ofNat (by omega)
  have hfirst : 0xE0 + n / 0x1000 = b.toNat := by omega
  have hsecond : 0x80 + n / 0x40 % 0x40 = b'.toNat := by omega
  have hthird : n % 0x40 = y % 0x40 := by omega
  constructor
  · simp only [CodePoint.isSurrogate, hval, Bool.and_eq_false_iff, decide_eq_false_iff_not]
    omega
  · rw [CodePoint.utf8, hval, if_neg (by omega), if_neg (by omega), if_pos (by omega), hfirst,
      hsecond, hthird, UInt8.ofNat_toNat, UInt8.ofNat_toNat]
    rfl

/-- Bounds on the second byte keep out numbers that three bytes are enough for, and those beyond the
last code point. -/
theorem promises_four (hlow : 0xF0 ≤ b.toNat) (hhigh : b.toNat ≤ 0xF4) (hlow' : 0x80 ≤ b'.toNat)
    (hhigh' : b'.toNat ≤ 0xBF) (hshort : b.toNat = 0xF0 → 0x90 ≤ b'.toNat)
    (hlast : b.toNat = 0xF4 → b'.toNat ≤ 0x8F) :
    Promises [b, b'] ((b.toNat - 0xF0) * 0x40 + b'.toNat % 0x40) 2 := by
  intro y hy
  generalize hn : ((b.toNat - 0xF0) * 0x40 + b'.toNat % 0x40) * 0x40 ^ 2 + y = n
  have hval : (CodePoint.ofNat n).val = n := CodePoint.val_ofNat (by omega)
  have hfirst : 0xF0 + n / 0x40000 = b.toNat := by omega
  have hsecond : 0x80 + n / 0x1000 % 0x40 = b'.toNat := by omega
  have hthird : n / 0x40 % 0x40 = y / 0x40 % 0x40 := by omega
  have hfourth : n % 0x40 = y % 0x40 := by omega
  constructor
  · simp only [CodePoint.isSurrogate, hval, Bool.and_eq_false_iff, decide_eq_false_iff_not]
    omega
  · rw [CodePoint.utf8, hval, if_neg (by omega), if_neg (by omega), if_neg (by omega), hfirst,
      hsecond, hthird, hfourth, UInt8.ofNat_toNat, UInt8.ofNat_toNat]
    rfl

theorem lead?_none (h : 0x80 ≤ b.toNat ∧ b.toNat < 0xC2 ∨ 0xF4 < b.toNat) :
    lead? false b = none := by
  unfold lead?
  dsimp only
  split_ifs <;> first | rfl | omega

theorem lead?_one (h : b.toNat < 0x80) :
    lead? false b = some { following := 0, bits := b.toNat } := by
  unfold lead?
  exact if_pos h

theorem utf8_of_lead? {lead : Lead} (h : lead? false b = some lead) (hmore : lead.following = 0) :
    (CodePoint.ofNat lead.bits).isSurrogate = false ∧ (CodePoint.ofNat lead.bits).utf8 = [b] := by
  rcases Nat.lt_or_ge b.toNat 0x80 with hone | hone
  · rw [lead?_one hone, Option.some.injEq] at h
    subst h
    have hval : (CodePoint.ofNat b.toNat).val = b.toNat := CodePoint.val_ofNat (by omega)
    constructor
    · simp only [CodePoint.isSurrogate, hval, Bool.and_eq_false_iff, decide_eq_false_iff_not]
      omega
    · rw [CodePoint.utf8, hval, if_pos hone, UInt8.ofNat_toNat]
  · exfalso
    unfold lead? at h
    dsimp only at h
    split_ifs at h <;> first | omega | (cases h; exact absurd hmore (Nat.succ_ne_zero _))

/-- A byte that others have to follow keeps its promise with any that it allows. -/
theorem awaits_of_lead? {lead : Lead} (h : lead? false b = some lead)
    (hmore : lead.following ≠ 0) : Awaits lead [b] := by
  rcases Nat.lt_or_ge b.toNat 0x80 with hone | hone
  · rw [lead?_one hone, Option.some.injEq] at h
    exact absurd (congrArg Lead.following h).symm hmore
  rcases Nat.lt_or_ge b.toNat 0xC2 with hnone | htwo
  · rw [lead?_none (.inl ⟨hone, hnone⟩)] at h
    cases h
  rcases Nat.lt_or_ge b.toNat 0xE0 with hhigh | hthree
  · rw [lead?_two htwo hhigh, Option.some.injEq] at h
    subst h
    exact ⟨hmore, by simp, by simp, fun b' hlow' hhigh' => promises_two htwo hhigh hlow' hhigh'⟩
  rcases Nat.lt_or_ge b.toNat 0xF0 with hhigh | hfour
  · rw [lead?_three hthree hhigh, Option.some.injEq] at h
    subst h
    refine ⟨hmore, ?_, ?_, fun b' hlow' hhigh' => ?_⟩
    · dsimp only
      split_ifs <;> omega
    · dsimp only
      split_ifs <;> omega
    · dsimp only at hlow' hhigh'
      split_ifs at hlow' hhigh' <;> apply promises_three hthree hhigh <;> omega
  rcases Nat.lt_or_ge 0xF4 b.toNat with hnone | hhigh
  · rw [lead?_none (.inr hnone)] at h
    cases h
  · rw [lead?_four hfour hhigh, Option.some.injEq] at h
    subst h
    refine ⟨hmore, ?_, ?_, fun b' hlow' hhigh' => ?_⟩
    · dsimp only
      split_ifs <;> omega
    · dsimp only
      split_ifs <;> omega
    · dsimp only at hlow' hhigh'
      split_ifs at hlow' hhigh' <;> apply promises_four hfour hhigh <;> omega

end Lead

/-! ### Runs of the machine -/

/-- The bytes that the machine has read, as the segments found and the bytes held back keep them. -/
def State.bytes (s : State) : Bytes :=
  s.segments.reverse.flatMap Segment.bytes ++
    match s.open? with
    | none => []
    | some (_, taken) => taken.reverse

/-- What holds of the machine between any two bytes. -/
structure State.Sound (s : State) : Prop where
  scalars : ∀ c, Segment.scalar c ∈ s.segments → c.isSurrogate = false
  awaits : ∀ lead taken, s.open? = some (lead, taken) → Awaits lead taken

section Run

variable {found : List Segment} {s : State} {b : UInt8}

theorem bytes_cons_reverse (segment : Segment) (found : List Segment) :
    (segment :: found).reverse.flatMap Segment.bytes =
      found.reverse.flatMap Segment.bytes ++ segment.bytes := by
  rw [List.reverse_cons, List.flatMap_append, List.flatMap_singleton]

theorem begin_spec (hfound : ∀ c, Segment.scalar c ∈ found → c.isSurrogate = false) :
    (State.begin false found b).Sound ∧
      (State.begin false found b).bytes = found.reverse.flatMap Segment.bytes ++ [b] := by
  unfold State.begin
  cases hlead : lead? false b with
  | none =>
    refine ⟨⟨?_, nofun⟩, ?_⟩
    · simpa using hfound
    · simp only [State.bytes, bytes_cons_reverse, Segment.bytes, List.append_nil]
  | some lead =>
    dsimp only
    split_ifs with hmore
    · obtain ⟨hunicode, hbytes⟩ := utf8_of_lead? hlead hmore
      refine ⟨⟨?_, nofun⟩, ?_⟩
      · simpa [hunicode] using hfound
      · simp only [State.bytes, bytes_cons_reverse, Segment.bytes, List.append_nil, hbytes]
    · refine ⟨⟨hfound, ?_⟩, rfl⟩
      rintro _ _ ⟨⟩
      exact awaits_of_lead? hlead hmore

/-- One more byte leaves the machine sound, and no byte is lost. -/
theorem State.Sound.step (h : s.Sound) (b : UInt8) :
    (s.step false b).Sound ∧ (s.step false b).bytes = s.bytes ++ [b] := by
  obtain ⟨found, open?⟩ := s
  cases open? with
  | none => simpa [State.step, State.bytes] using begin_spec (b := b) h.scalars
  | some promise =>
    obtain ⟨lead, taken⟩ := promise
    have hawaits : Awaits lead taken := h.awaits lead taken rfl
    unfold State.step
    dsimp only
    split_ifs with hbounds hlast
    · obtain ⟨hunicode, hbytes⟩ := hawaits.last hbounds.1 hbounds.2 hlast
      refine ⟨⟨?_, ?_⟩, ?_⟩
      · simpa [hunicode] using h.scalars
      · rintro _ _ ⟨⟩
      · simp only [State.bytes, bytes_cons_reverse, Segment.bytes, List.append_nil, hbytes,
          List.append_assoc]
    · refine ⟨⟨h.scalars, ?_⟩, ?_⟩
      · rintro _ _ ⟨⟩
        exact hawaits.next hbounds.1 hbounds.2 hlast
      · simp only [State.bytes, List.reverse_cons, List.append_assoc]
    · have hfound : ∀ c, Segment.scalar c ∈ Segment.illFormed taken.reverse .continuation :: found →
          c.isSurrogate = false := by
        simpa using h.scalars
      obtain ⟨hsound, hbytes⟩ := begin_spec (b := b) hfound
      refine ⟨hsound, ?_⟩
      rw [hbytes, bytes_cons_reverse]
      rfl

/-- No byte is lost on the way through the machine. -/
theorem State.Sound.run (h : s.Sound) (bytes : Bytes) :
    (bytes.foldl (State.step false) s).Sound ∧
      (bytes.foldl (State.step false) s).bytes = s.bytes ++ bytes := by
  induction bytes generalizing s with
  | nil => exact ⟨h, (List.append_nil _).symm⟩
  | cons b bytes ih =>
    obtain ⟨hstep, hone⟩ := h.step b
    obtain ⟨hrun, hall⟩ := ih hstep
    refine ⟨hrun, ?_⟩
    rw [List.foldl_cons, hall, hone, List.append_assoc, List.singleton_append]

theorem finish_spec (h : s.Sound) :
    (∀ c, Segment.scalar c ∈ s.finish → c.isSurrogate = false) ∧
      s.finish.flatMap Segment.bytes = s.bytes := by
  obtain ⟨found, open?⟩ := s
  cases open? with
  | none => exact ⟨by simpa [State.finish] using h.scalars, (List.append_nil _).symm⟩
  | some promise =>
    refine ⟨by simpa [State.finish] using h.scalars, ?_⟩
    simp only [State.finish, bytes_cons_reverse, State.bytes, Segment.bytes]

end Run

theorem segments_spec (bytes : Bytes) :
    (∀ c, Segment.scalar c ∈ segments false bytes → c.isSurrogate = false) ∧
      (segments false bytes).flatMap Segment.bytes = bytes := by
  have hstart : State.Sound {} := ⟨by simp, nofun⟩
  obtain ⟨hrun, hbytes⟩ := hstart.run bytes
  obtain ⟨hscalars, hfinish⟩ := finish_spec hrun
  exact ⟨hscalars, hfinish.trans hbytes⟩

/-- A strict decoder accepts the bytes of texts without surrogates, each as its text, and nothing
else. -/
theorem decode?_eq_ok_iff {bytes : Bytes} {t : Text} :
    decode? false bytes = .ok t ↔ t.IsUnicode ∧ t.utf8 = bytes := by
  constructor
  · intro h
    obtain ⟨hscalars, hbytes⟩ := segments_spec bytes
    obtain ⟨u, hsegments, ht⟩ := eq_map_of_collect h
    rw [hsegments] at hscalars hbytes
    obtain rfl : t = u := ht
    refine ⟨fun c hc => hscalars c (List.mem_map_of_mem hc), ?_⟩
    rw [← hbytes, List.flatMap_map]
    rfl
  · rintro ⟨ht, rfl⟩
    exact decode?_utf8 ht

end Utf8

end CompletionWire
