import CompletionWire.Proofs.Except
import CompletionWire.Proofs.Text.WellFormed
import CompletionWire.Request.Url

/-!
# Credentials in URLs

A URL may be written with credentials: they stand before the last at sign of its authority, the
password behind a colon. On their way to the normal form they gain escapes and lose nothing, and
undoing the escapes leaves nothing out either. A URL with a host therefore calls for an
authorization exactly if a user or a password is written.
-/

namespace CompletionWire

/-! ### Nothing comes of nothing only -/

theorem Utf8.decodeReplacing_eq_nil_iff {bytes : Bytes} : decodeReplacing bytes = [] ↔ bytes = [] := by
  rw [decodeReplacing, List.map_eq_nil_iff]
  constructor
  · intro h
    have hbytes := (segments_spec bytes).2
    rwa [h, List.flatMap_nil, eq_comm] at hbytes
  · rintro rfl
    rfl

namespace Url

theorem unescape_eq_nil_iff {t : Text} : unescape t = [] ↔ t = [] := by
  cases t using unescape.induct with
  | case1 => exact iff_of_true rfl rfl
  | case2 c => simp [unescape, CodePoint.utf8_ne_nil]
  | case3 c d => simp [unescape, CodePoint.utf8_ne_nil]
  | case4 c a b rest byte h => simp [unescape, h]
  | case5 c a b rest h => simp [unescape, h, CodePoint.utf8_ne_nil]

/-! ### Escapes -/

/-- What escaping a text may come to: each code point stays if it may stand literally, or its bytes
are escaped. -/
inductive Escaped (literal : CodePoint → Bool) : Text → Text → Prop
  | nil : Escaped literal [] []
  | keep {c : CodePoint} {t w : Text} (hc : literal c = true) (h : Escaped literal t w) :
      Escaped literal (c :: t) (c :: w)
  | escape {c : CodePoint} {t w : Text} (hc : literal c = false) (h : Escaped literal t w) :
      Escaped literal (c :: t) (escapeCodePoint c ++ w)

section Escaped

variable {literal : CodePoint → Bool} {t w : Text}

theorem exists_escaped_of_escapeFrom (hpercent : literal (CodePoint.ofChar '%') = true)
    {done out : Text} (h : escapeFrom literal done t = .ok out) :
    ∃ w, out = done.reverse ++ w ∧ Escaped literal t w := by
  induction t generalizing done with
  | nil => exact ⟨[], by rw [List.append_nil]; exact (Except.ok.inj h).symm, .nil⟩
  | cons c t ih =>
    rw [escapeFrom] at h
    split_ifs at h with hkeep
    · have hc : literal c = true := by
        rcases Bool.or_eq_true_iff.1 hkeep with hc | hescape
        · exact hc
        · have hval : c = CodePoint.ofChar '%' :=
            CodePoint.ext (of_decide_eq_true (Bool.and_eq_true_iff.1 hescape).1)
          rw [hval, hpercent]
      obtain ⟨w, hout, hw⟩ := ih h
      exact ⟨c :: w, by rw [hout, List.reverse_cons, List.append_assoc]; rfl, .keep hc hw⟩
    · obtain ⟨w, hout, hw⟩ := ih h
      have hc : literal c = false := by
        rw [Bool.not_eq_true, Bool.or_eq_false_iff] at hkeep
        exact hkeep.1
      refine ⟨escapeCodePoint c ++ w, ?_, .escape hc hw⟩
      rw [hout, List.reverse_append, List.reverse_reverse, List.append_assoc]

theorem hexValue?_hexDigit {n : Nat} (h : n < 16) :
    (CodePoint.hexDigit n).asciiUpper.hexValue? = some n := by
  have hall : ∀ n < 16, (CodePoint.hexDigit n).asciiUpper.hexValue? = some n := by decide
  exact hall n h

theorem unescape_escape_byte (b : UInt8) (t : Text) :
    unescape (CodePoint.ofChar '%' :: (Text.hex 2 b.toNat).map CodePoint.asciiUpper ++ t) =
      b :: unescape t := by
  have hb : b.toNat < 256 := b.toNat_lt
  have hbyte : escapedByte? (CodePoint.ofChar '%') (CodePoint.hexDigit (b.toNat / 16 % 16)).asciiUpper
      (CodePoint.hexDigit (b.toNat % 16)).asciiUpper = some b := by
    have hsame : b.toNat / 16 % 16 * 16 + b.toNat % 16 = b.toNat := by omega
    rw [escapedByte?, if_pos (by decide), hexValue?_hexDigit (by omega),
      hexValue?_hexDigit (by omega)]
    simp only [Option.bind_eq_bind, Option.bind_some, hsame, UInt8.ofNat_toNat]
    rfl
  show unescape (CodePoint.ofChar '%' :: (CodePoint.hexDigit (b.toNat / 16 % 16)).asciiUpper ::
    (CodePoint.hexDigit (b.toNat % 16)).asciiUpper :: t) = _
  rw [unescape, hbyte]

theorem unescape_escapeCodePoint (c : CodePoint) (t : Text) :
    unescape (escapeCodePoint c ++ t) = c.utf8 ++ unescape t := by
  rw [escapeCodePoint]
  induction c.utf8 with
  | nil => rfl
  | cons b bytes ih => rw [List.flatMap_cons, List.append_assoc, unescape_escape_byte, ih]; rfl

theorem unescape_cons {c : CodePoint}
    (h : ∀ a b rest, t = a :: b :: rest → escapedByte? c a b = none) :
    unescape (c :: t) = c.utf8 ++ unescape t := by
  match t, h with
  | [], _ => rw [unescape, unescape, List.append_nil]
  | [d], _ => rw [unescape, unescape]
  | a :: b :: rest, h => rw [unescape, h a b rest rfl]

theorem exists_escapeCodePoint (c : CodePoint) :
    ∃ rest, escapeCodePoint c = CodePoint.ofChar '%' :: rest := by
  obtain ⟨b, bytes, hbytes⟩ := List.exists_cons_of_ne_nil c.utf8_ne_nil
  exact ⟨_, by rw [escapeCodePoint, hbytes, List.flatMap_cons, List.cons_append]⟩

theorem Escaped.exists_of_digit {a : CodePoint} (h : Escaped literal t (a :: w))
    (ha : a.hexValue?.isSome = true) : ∃ t', t = a :: t' ∧ Escaped literal t' w := by
  generalize hout : a :: w = out at h
  cases h with
  | nil => cases hout
  | keep hc h =>
    obtain ⟨rfl, rfl⟩ := List.cons.inj hout
    exact ⟨_, rfl, h⟩
  | @escape c _ _ hc h =>
    obtain ⟨rest, hrest⟩ := exists_escapeCodePoint c
    rw [hrest, List.cons_append] at hout
    rw [(List.cons.inj hout).1] at ha
    cases ha

theorem isSome_hexValue?_of_escapedByte? {c a b : CodePoint} {byte : UInt8}
    (h : escapedByte? c a b = some byte) :
    c = CodePoint.ofChar '%' ∧ a.hexValue?.isSome = true ∧ b.hexValue?.isSome = true := by
  rw [escapedByte?] at h
  split_ifs at h with hc
  refine ⟨CodePoint.ext hc, ?_⟩
  cases ha : a.hexValue? with
  | none => simp [ha] at h
  | some high =>
    cases hb : b.hexValue? with
    | none => simp [ha, hb] at h
    | some low => exact ⟨rfl, rfl⟩

/-- Escapes that are gained behind a code point that begins none make it begin none. -/
theorem unescape_cons_of_escaped {c : CodePoint}
    (hnone : ∀ a b rest, t = a :: b :: rest → escapedByte? c a b = none)
    (ih : ∀ w, Escaped literal t w → unescape w = unescape t) (h : Escaped literal (c :: t) w) :
    unescape w = unescape (c :: t) := by
  rw [unescape_cons hnone]
  cases h with
  | escape hc h => rw [unescape_escapeCodePoint, ih _ h]
  | @keep _ _ w hc h =>
    rw [unescape_cons, ih _ h]
    rintro a b rest rfl
    by_contra hsome
    obtain ⟨byte, hbyte⟩ := Option.ne_none_iff_exists'.1 hsome
    obtain ⟨-, ha, hb⟩ := isSome_hexValue?_of_escapedByte? hbyte
    obtain ⟨t', rfl, h'⟩ := h.exists_of_digit ha
    obtain ⟨t'', rfl, -⟩ := h'.exists_of_digit hb
    exact hsome (hnone a b t'' rfl)

/-- Undoing escapes gives the bytes that undoing those already written gives. -/
theorem unescape_of_escaped (hpercent : literal (CodePoint.ofChar '%') = true)
    (hdigit : ∀ c, c.hexValue?.isSome = true → literal c = true) (h : Escaped literal t w) :
    unescape w = unescape t := by
  have hnil : ∀ w, Escaped literal [] w → unescape w = unescape [] := by
    rintro _ ⟨⟩
    rfl
  have hone (c : CodePoint) (w : Text) (h : Escaped literal [c] w) : unescape w = unescape [c] :=
    unescape_cons_of_escaped (by rintro _ _ _ ⟨⟩) hnil h
  induction t using unescape.induct generalizing w with
  | case1 => exact hnil w h
  | case2 c => exact hone c w h
  | case3 c d => exact unescape_cons_of_escaped (by rintro _ _ _ ⟨⟩) (hone d) h
  | case4 c a b rest byte hbyte ih =>
    obtain ⟨rfl, ha, hb⟩ := isSome_hexValue?_of_escapedByte? hbyte
    cases h with
    | escape hc h => simp [hpercent] at hc
    | keep hc h =>
    cases h with
    | escape hc h => simp [hdigit a ha] at hc
    | keep hc h =>
    cases h with
    | escape hc h => simp [hdigit b hb] at hc
    | keep hc h => rw [unescape, unescape, hbyte, ih h]
  | case5 c a b rest hnone ih =>
    refine unescape_cons_of_escaped ?_ (fun w h => ih h) h
    rintro _ _ _ ⟨⟩
    exact hnone

theorem ne_colon_of_mem_escapeCodePoint {c d : CodePoint} (hd : d ∈ escapeCodePoint c) :
    d ≠ Host.colon := by
  have hdigit : ∀ n < 16, (CodePoint.hexDigit n).asciiUpper ≠ Host.colon := by decide
  obtain ⟨b, -, hb⟩ := List.mem_flatMap.1 hd
  rcases List.mem_cons.1 hb with rfl | hb
  · decide
  · obtain ⟨e, he, rfl⟩ := List.mem_map.1 hb
    simp only [Text.hex, List.nil_append, List.singleton_append, List.mem_cons, List.not_mem_nil,
      or_false] at he
    rcases he with rfl | rfl
    · exact hdigit _ (Nat.mod_lt _ (by decide))
    · exact hdigit _ (Nat.mod_lt _ (by decide))

theorem cutAt_append {c : CodePoint} {front back : Text} (h : ∀ d ∈ front, d ≠ c) :
    Text.cutAt c (front ++ back) = (front ++ (Text.cutAt c back).1, (Text.cutAt c back).2) := by
  have hfront : ∀ d ∈ front, decide (d ≠ c) = true := fun d hd => decide_eq_true (h d hd)
  rw [Text.cutAt, List.takeWhile_append_of_pos hfront, List.dropWhile_append_of_pos hfront]
  rfl

theorem cutAt_cons_self (c : CodePoint) (t : Text) : Text.cutAt c (c :: t) = ([], some t) := by
  simp [Text.cutAt]

/-- Where the colon stands literally, what stands before it and behind it is escaped apart. -/
theorem Escaped.cutAt_colon (hcolon : literal Host.colon = true) (h : Escaped literal t w) :
    Escaped literal (Text.cutAt Host.colon t).1 (Text.cutAt Host.colon w).1 ∧
      Escaped literal ((Text.cutAt Host.colon t).2.getD [])
        ((Text.cutAt Host.colon w).2.getD []) := by
  induction h with
  | nil => exact ⟨.nil, .nil⟩
  | @keep c t w hc h ih =>
    by_cases heq : c = Host.colon
    · rw [heq, cutAt_cons_self, cutAt_cons_self]
      exact ⟨.nil, h⟩
    · have hfront : ∀ d ∈ [c], d ≠ Host.colon := by simpa using heq
      rw [← List.singleton_append, ← List.singleton_append (l := w), cutAt_append hfront,
        cutAt_append hfront]
      exact ⟨.keep hc ih.1, ih.2⟩
  | @escape c t w hc h ih =>
    have hfront : ∀ d ∈ [c], d ≠ Host.colon := by
      rintro d hd rfl
      rw [← List.mem_singleton.1 hd, hcolon] at hc
      cases hc
    rw [← List.singleton_append, cutAt_append hfront,
      cutAt_append fun d hd => ne_colon_of_mem_escapeCodePoint hd]
    exact ⟨.escape hc ih.1, ih.2⟩

end Escaped

/-! ### Authorizations -/

/-- The bytes that stand for a user or a password. -/
def shown (t : Text) : Bytes := (Utf8.decodeReplacing (unescape t)).utf8

theorem shown_eq_nil_iff {t : Text} : shown t = [] ↔ t = [] := by
  rw [shown, Text.utf8_eq_nil_iff, Utf8.decodeReplacing_eq_nil_iff, unescape_eq_nil_iff]

def basic (user password : Text) : Text :=
  text "Basic " ++ Base64.encode (shown user ++ Host.colon.utf8 ++ shown password)

/-- No one is named, and no password is given. -/
def IsBlank (userinfo : Text) : Prop := userinfo = [] ∨ userinfo = [Host.colon]

instance (userinfo : Text) : Decidable (IsBlank userinfo) := inferInstanceAs (Decidable (_ ∨ _))

theorem isBlank_iff_cutAt {userinfo : Text} :
    IsBlank userinfo ↔ (Text.cutAt Host.colon userinfo).1 = [] ∧
      (Text.cutAt Host.colon userinfo).2.getD [] = [] := by
  cases userinfo with
  | nil => exact iff_of_true (.inl rfl) ⟨rfl, rfl⟩
  | cons c t =>
    by_cases heq : c = Host.colon
    · rw [heq, cutAt_cons_self]
      simp [IsBlank]
    · simp [IsBlank, Text.cutAt, heq]

theorem isUserinfo_of_digit {c : CodePoint} (h : c.hexValue?.isSome = true) :
    isUserinfo c = true := by
  have hsmall : c.val < 0x67 := by
    unfold CodePoint.hexValue? at h
    split_ifs at h with hdigit hcapital hletter
    · omega
    · omega
    · omega
    · cases h
  have hall : ∀ n < 0x67, (CodePoint.ofNat n).hexValue?.isSome = true →
      isUserinfo (CodePoint.ofNat n) = true := by decide
  rw [← CodePoint.ofNat_val c] at h ⊢
  exact hall c.val hsmall h

/-- Credentials are what they are whether they have been escaped or not. -/
theorem basicAuthorization?_of_escaped {userinfo : Text} {u : Url}
    (h : Escaped isUserinfo userinfo u.userinfo) :
    u.basicAuthorization? =
      if IsBlank userinfo then none
      else some (basic (Text.cutAt Host.colon userinfo).1
        ((Text.cutAt Host.colon userinfo).2.getD [])) := by
  have hshown {t w : Text} (h : Escaped isUserinfo t w) :
      (Utf8.decodeReplacing (unescape w)).utf8 = shown t := by
    rw [unescape_of_escaped (by decide) (fun c => isUserinfo_of_digit) h]
    rfl
  obtain ⟨huser, hpassword⟩ := h.cutAt_colon (by decide)
  simp only [basicAuthorization?, hshown huser, hshown hpassword, Bool.and_eq_true,
    List.isEmpty_iff, shown_eq_nil_iff, ← isBlank_iff_cutAt, basic]

/-! ### Written credentials -/

def behindScheme (t : Text) : Text := (Text.dropStart? (text "https://") t).getD (t.drop 7)

/-- The code points behind the scheme up to the first one that ends an authority. -/
def writtenAuthority (t : Text) : Text :=
  (behindScheme t).takeWhile fun c => c ∉ [slash, CodePoint.ofChar '?', CodePoint.ofChar '#']

/-- What is written before the last at sign of the authority. -/
def writtenUserinfo (t : Text) : Text := (cutUserinfo (writtenAuthority t)).1

theorem takeWhile_authority (t : Text) :
    (Text.cutAt (CodePoint.ofChar '?') (Text.cutAt (CodePoint.ofChar '#') t).1).1.takeWhile
        (· ≠ slash) =
      t.takeWhile fun c => c ∉ [slash, CodePoint.ofChar '?', CodePoint.ofChar '#'] := by
  rw [Text.cutAt, Text.cutAt, List.takeWhile_takeWhile, List.takeWhile_takeWhile]
  congr 1
  funext c
  simp [and_assoc]

theorem escaped_of_ofParts {scheme rest : Text} {u : Url} (h : ofParts scheme rest = .ok u) :
    Escaped isUserinfo
      (cutUserinfo (rest.takeWhile fun c =>
        c ∉ [slash, CodePoint.ofChar '?', CodePoint.ofChar '#'])).1 u.userinfo := by
  rw [← takeWhile_authority]
  simp only [ofParts] at h
  obtain ⟨userinfo, huserinfo, h⟩ := exists_of_bind_eq_ok h
  obtain ⟨host, -, h⟩ := exists_of_bind_eq_ok h
  obtain ⟨portNumber?, -, h⟩ := exists_of_bind_eq_ok h
  obtain ⟨path, -, h⟩ := exists_of_bind_eq_ok h
  obtain ⟨query?, -, h⟩ := exists_of_bind_eq_ok h
  obtain ⟨fragment?, -, h⟩ := exists_of_bind_eq_ok h
  cases h
  obtain ⟨w, rfl, hescaped⟩ := exists_escaped_of_escapeFrom (by decide) huserinfo
  exact hescaped

theorem exists_ofParts_of_ofText {t : Text} {u : Url} (h : ofText t = .ok u) :
    ∃ scheme v, ofParts scheme (behindScheme t) = .ok v ∧
      (v.host ≠ [] ∧ u = v ∨ v.host = [] ∧ v.withoutHost = .ok u) := by
  have hfinish {v : Url} (h : (if v.host.isEmpty then v.withoutHost else pure v) = .ok u) :
      v.host ≠ [] ∧ u = v ∨ v.host = [] ∧ v.withoutHost = .ok u := by
    split_ifs at h with hhost
    · exact .inr ⟨List.isEmpty_iff.1 hhost, h⟩
    · exact .inl ⟨mt List.isEmpty_iff.2 hhost, (Except.ok.inj h).symm⟩
  rw [ofText] at h
  split_ifs at h
  split at h
  · cases h
  dsimp only at h
  rw [behindScheme]
  cases hrest : Text.dropStart? (text "https://") t with
  | some rest =>
    rw [hrest] at h
    obtain ⟨v, hv, h⟩ := exists_of_bind_eq_ok h
    exact ⟨_, v, hv, hfinish h⟩
  | none =>
    rw [hrest] at h
    obtain ⟨v, hv, h⟩ := exists_of_bind_eq_ok h
    exact ⟨_, v, hv, hfinish h⟩

theorem withoutHost_eq_ok {u v : Url} (h : v.withoutHost = .ok u) :
    u.host = [] ∧ u.userinfo = [] := by
  rw [withoutHost] at h
  split_ifs at h
  cases h
  exact ⟨rfl, rfl⟩

/-- The credentials that a URL is written with are those that it calls for, if it has a host. -/
theorem basicAuthorization?_of_ofText {t : Text} {u : Url} (h : ofText t = .ok u) :
    u.basicAuthorization? =
      if u.host = [] ∨ IsBlank (writtenUserinfo t) then none
      else some (basic (Text.cutAt Host.colon (writtenUserinfo t)).1
        ((Text.cutAt Host.colon (writtenUserinfo t)).2.getD [])) := by
  obtain ⟨scheme, v, hv, ⟨hhost, rfl⟩ | ⟨-, hwithout⟩⟩ := exists_ofParts_of_ofText h
  · rw [basicAuthorization?_of_escaped (escaped_of_ofParts hv)]
    simp only [hhost, false_or]
    rfl
  · obtain ⟨hhost, huserinfo⟩ := withoutHost_eq_ok hwithout
    rw [if_pos (.inl hhost), basicAuthorization?, huserinfo]
    rfl

end Url

end CompletionWire
