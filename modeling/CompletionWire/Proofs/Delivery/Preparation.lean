import CompletionWire.Delivery
import CompletionWire.Proofs.Decimal.Whole
import CompletionWire.Proofs.Except

/-!
# What a call prepares

A call can be sent when its URL is one, its body can be built and written, and its headers are
legal; what comes of preparing it is then one request and one policy. The waits of a policy are
computed on binary64 numbers. Bounds of at most `2 ^ 53` in size are kept exactly by these, and the
wait behind an attempt is then a formula on whole numbers, however late the attempt.
-/

namespace CompletionWire

namespace Settings

/-- The wait behind attempt `n`, in seconds. -/
def waitBehind (s : Settings) (n : Nat) : Int :=
  max (max 0 s.leastWait) (min (2 ^ (n - 1)) s.mostWait)

/-- How often a request is sent at most: an attempt is always made. -/
def attemptLimit (s : Settings) : Nat := (max 1 s.attempts).toNat

theorem attemptLimit_pos (s : Settings) : 0 < s.attemptLimit := by
  rw [attemptLimit]
  omega

/-- The bounds of the waits are whole numbers that binary64 numbers keep. -/
structure HasExactWaits (s : Settings) : Prop where
  least : s.leastWait.natAbs ≤ 2 ^ 53
  most : s.mostWait.natAbs ≤ 2 ^ 53

end Settings

namespace Policy

def exact (s : Settings) : Policy :=
  ⟨s.attempts, Binary64.ofInt s.leastWait, Binary64.ofInt s.mostWait⟩

theorem ofSettings_of_hasExactWaits {s : Settings} (h : s.HasExactWaits) :
    ofSettings s = .ok (exact s) := by
  simp [ofSettings, exact, Binary64.isFinite_ofInt h.least, Binary64.isFinite_ofInt h.most]

theorem retries_ofSettings {s : Settings} {policy : Policy} (h : ofSettings s = .ok policy) :
    policy.retries + 1 = s.attemptLimit := by
  simp only [ofSettings] at h
  split_ifs at h
  rw [← Except.ok.inj h]
  simp only [retries, Settings.attemptLimit]
  omega

theorem wait_exact {s : Settings} (h : s.HasExactWaits) (n : Nat) :
    (exact s).wait n = Binary64.ofInt (s.waitBehind n) := by
  have hpow : ((2 ^ (n - 1) : Nat) : Int).natAbs = 2 ^ (n - 1) := Int.natAbs_natCast _
  have hleast := h.least
  have hmost := h.most
  have hlower : (Binary64.zero false).larger (Binary64.ofInt s.leastWait) =
      Binary64.ofInt (max 0 s.leastWait) :=
    Binary64.larger_ofInt (a := 0) (Binary64.isShort_of_le (by simp))
      (Binary64.isShort_of_le hleast) (.inr hleast)
  have hupper : (Binary64.ofInt ((2 ^ (n - 1) : Nat) : Int)).smaller (Binary64.ofInt s.mostWait) =
      Binary64.ofInt (min ((2 ^ (n - 1) : Nat) : Int) s.mostWait) :=
    Binary64.smaller_ofInt (by rw [hpow]; exact Binary64.isShort_two_pow _)
      (Binary64.isShort_of_le hmost) (.inr hmost)
  have hlowerBound : (max 0 s.leastWait).natAbs ≤ 2 ^ 53 := by omega
  have hupperBound : (min ((2 ^ (n - 1) : Nat) : Int) s.mostWait).natAbs ≤ 2 ^ 53 := by
    have : (0 : Int) ≤ ((2 ^ (n - 1) : Nat) : Int) := Int.natCast_nonneg _
    omega
  simp only [wait, exact, Nat.pow_eq, hlower, hupper, Settings.waitBehind]
  rw [Binary64.larger_ofInt (Binary64.isShort_of_le hlowerBound)
    (Binary64.isShort_of_le hupperBound) (.inl hlowerBound)]
  push_cast
  rfl

end Policy

namespace Settings

theorem natAbs_waitBehind_le {s : Settings} (h : s.HasExactWaits) (n : Nat) :
    (s.waitBehind n).natAbs ≤ 2 ^ 53 := by
  have hleast := h.least
  have hmost := h.most
  have : (0 : Int) ≤ 2 ^ (n - 1) := by positivity
  rw [waitBehind]
  omega

end Settings

namespace Call

/-- A call can be sent to `url` with the text `written`: every part of its request can be made. -/
structure Sendable (c : Call) (url : Url) (written : Text) : Prop where
  url_eq : Url.ofText (Url.ofModel c.model) = .ok url
  host_eq : url.checkHost = .ok ()
  body_eq : ∃ body, Request.body c.prompt c.params = .ok body ∧ Request.wireText body = .ok written
  headers_eq : ∃ headers,
    Request.headers c.params.backend? c.token? c.editor c.runtimeVersion = .ok headers

/-- Settings have no part in what is sent. -/
theorem exists_prepare_of_sendable {c : Call} {url : Url} {written : Text}
    (h : c.Sendable url written) :
    ∃ request : SentRequest, request.url = url ∧ request.body = written ∧
      ∀ {s policy}, Policy.ofSettings s = .ok policy →
        (c.prepare s).value = .ok (request, policy) := by
  obtain ⟨hurl, hhost, ⟨body, hbody, hwritten⟩, ⟨headers, hheaders⟩⟩ := h
  refine ⟨⟨url, url.basicAuthorization?.or (header? "Authorization" headers),
    header? "User-Agent" headers, written⟩, rfl, rfl, ?_⟩
  intro s policy hpolicy
  simp only [prepare, Request.buildBody, Logged.map, hbody, hheaders, assemble,
    hpolicy, hurl, hwritten, bind, Except.bind, Except.mapError, hhost, pure, Except.pure]

theorem prepare_of_sendable {c : Call} {url : Url} {written : Text} (h : c.Sendable url written)
    {s : Settings} {policy : Policy} (hpolicy : Policy.ofSettings s = .ok policy) :
    ∃ request : SentRequest, request.url = url ∧ request.body = written ∧
      (c.prepare s).value = .ok (request, policy) := by
  obtain ⟨request, hurl, hwritten, hprepare⟩ := exists_prepare_of_sendable h
  exact ⟨request, hurl, hwritten, hprepare hpolicy⟩

/-- A request that is made is made of the URL of the model and of the call's headers, and it is sent
by the policy of the settings. -/
theorem exists_headers_of_prepare {c : Call} {s : Settings} {request : SentRequest}
    {policy : Policy} (h : (c.prepare s).value = .ok (request, policy)) :
    ∃ headers,
      Request.headers c.params.backend? c.token? c.editor c.runtimeVersion = .ok headers ∧
      Policy.ofSettings s = .ok policy ∧ Url.ofText (Url.ofModel c.model) = .ok request.url ∧
      request.authorization? =
        request.url.basicAuthorization?.or (header? "Authorization" headers) ∧
      request.userAgent? = header? "User-Agent" headers := by
  simp only [prepare, Logged.map] at h
  cases hbody : (Request.buildBody c.prompt c.params).value with
  | error f =>
    rw [hbody] at h
    cases h
  | ok body =>
    rw [hbody] at h
    obtain ⟨headers, hheaders, h⟩ := exists_of_bind_eq_ok h
    obtain ⟨policy', hpolicy, h⟩ := exists_of_bind_eq_ok h
    obtain ⟨url, hurl, h⟩ := exists_of_bind_eq_ok h
    obtain ⟨written, -, h⟩ := exists_of_bind_eq_ok h
    obtain ⟨-, -, h⟩ := exists_of_bind_eq_ok h
    cases h
    exact ⟨headers, hheaders, hpolicy, eq_ok_of_mapError hurl, rfl, rfl⟩

end Call

end CompletionWire
