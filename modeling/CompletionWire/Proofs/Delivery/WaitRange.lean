import CompletionWire.Proofs.Decimal.Numerals
import CompletionWire.Proofs.Decimal.Range
import CompletionWire.Proofs.Delivery.Refusals

/-!
# Settings that keep a request from being sent

Whatever a variable holds, a number or not, an attempt is always made, with one exception: a bound
of the waits that is a whole number beyond the range of binary64 numbers makes no policy, and a call
without a policy is refused. With a policy the settings count from the second attempt on, so that a
request that is answered at once is the same as if they were not there.
-/

namespace CompletionWire

namespace Settings

/-- The environment without what it says about attempts and waits. -/
def withoutRetries (env : Environment) : Environment :=
  ((env.erase attemptsVariable).erase leastWaitVariable).erase mostWaitVariable

/-- A variable holds no whole number beyond the range of binary64 numbers; it may be missing and
hold anything else. -/
def StaysInRange (env : Environment) (name : Text) : Prop :=
  ∀ n, (env.find? name).bind Numeral.int? = some n → n.natAbs < Binary64.rangeBound

structure HasFiniteWaits (s : Settings) : Prop where
  least : s.leastWait.natAbs < Binary64.rangeBound
  most : s.mostWait.natAbs < Binary64.rangeBound

theorem natAbs_whole_lt_iff {env : Environment} {name : Text} (default : Int)
    (hdefault : default.natAbs ≤ 2 ^ 53) :
    (whole env name default).natAbs < Binary64.rangeBound ↔ StaysInRange env name := by
  rw [whole, StaysInRange]
  cases hvalue : (env.find? name).bind Numeral.int? with
  | none => simpa using Binary64.lt_rangeBound hdefault
  | some n => simp

theorem hasFiniteWaits_ofEnvironment_iff {env : Environment} :
    (ofEnvironment env).HasFiniteWaits ↔
      StaysInRange env leastWaitVariable ∧ StaysInRange env mostWaitVariable := by
  rw [← natAbs_whole_lt_iff 1 (by decide), ← natAbs_whole_lt_iff 10 (by decide)]
  constructor
  · intro h
    exact ⟨h.least, h.most⟩
  · intro h
    exact ⟨h.1, h.2⟩

theorem hasExactWaits_withoutRetries (env : Environment) :
    (ofEnvironment (withoutRetries env)).HasExactWaits := by
  have hleast : (withoutRetries env).find? leastWaitVariable = none := by
    rw [withoutRetries, Environment.find?_erase_of_ne (by decide), Environment.find?_erase_self]
  have hmost : (withoutRetries env).find? mostWaitVariable = none := by
    rw [withoutRetries, Environment.find?_erase_self]
  constructor
  · simp [ofEnvironment, whole, hleast]
  · simp [ofEnvironment, whole, hmost]

end Settings

namespace Policy

variable {s : Settings}

theorem ofSettings_of_hasFiniteWaits (h : s.HasFiniteWaits) : ofSettings s = .ok (exact s) := by
  have hleast := (Binary64.isFinite_ofInt_iff s.leastWait).2 h.least
  have hmost := (Binary64.isFinite_ofInt_iff s.mostWait).2 h.most
  simp only [ofSettings, exact, hleast, hmost]
  rfl

theorem ofSettings_of_not_hasFiniteWaits (h : ¬s.HasFiniteWaits) :
    ofSettings s = .error (.abort .waitTooLarge) := by
  have hinfinite :
      ((Binary64.ofInt s.leastWait).isFinite && (Binary64.ofInt s.mostWait).isFinite) = false := by
    rw [← Bool.not_eq_true, Bool.and_eq_true, Binary64.isFinite_ofInt_iff,
      Binary64.isFinite_ofInt_iff]
    intro hfinite
    exact h ⟨hfinite.1, hfinite.2⟩
  simp only [ofSettings, hinfinite]
  rfl

end Policy

namespace Delivery

variable {c : Call} {url : Url} {written : Text} {s s' : Settings} {policy policy' : Policy}

theorem run_eq_of_answer (h : c.Sendable url written) (hpolicy : Policy.ofSettings s = .ok policy)
    (hpolicy' : Policy.ofSettings s' = .ok policy') {script : Script} {a : Answer}
    (ha : script.next = .answer a) : run c s script = run c s' script := by
  obtain ⟨request, -, -, hprepare⟩ := Call.exists_prepare_of_sendable h
  have hfirst : script.next.isRetryable = false := by
    rw [ha]
    rfl
  have hevents : (c.prepare s).events = (c.prepare s').events := by
    simp only [Call.prepare, Logged.map]
  simp only [run, hprepare hpolicy, hprepare hpolicy', Trace.run_of_not_isRetryable hfirst, hevents]

/-- A call whose bounds of the waits are beyond the range is refused. -/
theorem refused_of_not_hasFiniteWaits (h : c.Sendable url written) (hs : ¬s.HasFiniteWaits) :
    Refused c s (.abort .waitTooLarge) := by
  obtain ⟨-, -, ⟨body, hbody, -⟩, ⟨headers, hheaders⟩⟩ := h
  apply refused_of_prepare
  simp only [Call.prepare, Request.buildBody, Logged.map, hbody, hheaders, Call.assemble,
    Policy.ofSettings_of_not_hasFiniteWaits hs, bind, Except.bind]

/-- Whatever the settings of attempts and waits hold, a call that can be sent is sent at least once,
and if the first attempt is answered its delivery is the one without these settings: one request, no
wait, and the result of reading the answer. The exception are bounds of the waits that are whole
numbers beyond the range of binary64 numbers: with one of these nothing is sent, and the delivery
aborts. -/
theorem run_unless_wait_out_of_range (h : c.Sendable url written) (env : Environment)
    (script : Script) :
    let d := run c (Settings.ofEnvironment env) script
    let InRange := Settings.StaysInRange env Settings.leastWaitVariable ∧
      Settings.StaysInRange env Settings.mostWaitVariable
    (InRange →
      (∃ n, ∃ request : SentRequest, request.url = url ∧ request.body = written ∧
        d.requests = List.replicate (n + 1) request) ∧
      ∀ a, script.next = .answer a →
        d = run c (Settings.ofEnvironment (Settings.withoutRetries env)) script ∧
        d.requests.length = 1 ∧ d.waits = [] ∧
        ∀ t, a.Readable t → url.scheme ≠ [] →
          d.result = (Response.read c.params.backend? t).value) ∧
    (¬InRange → Refused c (Settings.ofEnvironment env) (.abort .waitTooLarge)) := by
  intro d InRange
  refine ⟨?_, ?_⟩
  · intro hrange
    have hpolicy :=
      Policy.ofSettings_of_hasFiniteWaits (Settings.hasFiniteWaits_ofEnvironment_iff.2 hrange)
    obtain ⟨request, hurl, hwritten, hprepare⟩ := Call.exists_prepare_of_sendable h
    obtain ⟨hrequests, hwaits, hresult⟩ := run_of_prepared (hprepare hpolicy) script
    refine ⟨⟨_, request, hurl, hwritten, hrequests⟩, ?_⟩
    intro a ha
    have hfirst : script.next.isRetryable = false := by
      rw [ha]
      rfl
    rw [Trace.run_of_not_isRetryable hfirst] at hrequests hwaits hresult
    have hunset :=
      Policy.ofSettings_of_hasExactWaits (Settings.hasExactWaits_withoutRetries env)
    refine ⟨run_eq_of_answer h hpolicy hunset ha, ?_, hwaits, ?_⟩
    · rw [show d.requests = _ from hrequests, List.length_replicate]
      rfl
    · intro t ht hscheme
      rw [show d.result = _ from hresult, ha, hurl]
      exact conclude_of_readable ht c hscheme
  · intro hrange
    exact refused_of_not_hasFiniteWaits h (mt Settings.hasFiniteWaits_ofEnvironment_iff.1 hrange)

/-- A negative number of attempts, a text and too many digits are no obstacle. -/
theorem run_unless_wait_out_of_range_odd_settings :
    let c := Call.plain (text "gpt2") (text "hi")
    let env : Environment := [
      (Settings.attemptsVariable, text "-5"),
      (Settings.leastWaitVariable, text "many"),
      (Settings.mostWaitVariable, List.replicate 4301 (CodePoint.ofChar '9'))]
    let d := run c (Settings.ofEnvironment env) [.answer ⟨200, none, (text "[]").utf8⟩]
    d.requests.length = 1 ∧ d.result = .ok [] := by
  intro c env d
  obtain ⟨url, written, hscheme, hsendable⟩ := Call.sendable_plain
  have hnone : ∀ name ∈ [Settings.leastWaitVariable, Settings.mostWaitVariable],
      (env.find? name).bind Numeral.int? = none := by decide +kernel
  have hrange : ∀ name ∈ [Settings.leastWaitVariable, Settings.mostWaitVariable],
      Settings.StaysInRange env name := by
    intro name hname n hn
    rw [hnone name hname] at hn
    cases hn
  obtain ⟨hsent, -⟩ := run_unless_wait_out_of_range hsendable env
    [.answer ⟨200, none, (text "[]").utf8⟩]
  obtain ⟨-, hanswered⟩ := hsent ⟨hrange _ (by simp), hrange _ (by simp)⟩
  obtain ⟨-, hlength, -, hread⟩ := hanswered _ rfl
  refine ⟨hlength, ?_⟩
  rw [hread (text "[]") ⟨by decide, by rfl⟩ hscheme]
  rfl

/-- A call whose first attempt would be answered is not sent at all if the least wait is `10 ^ 400`
seconds. -/
theorem run_far_wait_sends_nothing :
    let c := Call.plain (text "gpt2") (text "hi")
    let wait : Int := 10 ^ 400
    let env : Environment := [(Settings.leastWaitVariable, Text.ofInt wait)]
    let script : Script := [.answer ⟨200, none, (text "[]").utf8⟩]
    (∃ url written, c.Sendable url written) ∧
      (run c (Settings.ofEnvironment env) script).requests = [] ∧
      (run c (Settings.ofEnvironment env) script).result = .error (.abort .waitTooLarge) ∧
      (run c (Settings.ofEnvironment []) script).result = .ok [] := by
  intro c wait env script
  obtain ⟨url, written, hscheme, hsendable⟩ := Call.sendable_plain
  have hdigits : wait.natAbs < 10 ^ Numeral.maxDigits := by decide +kernel
  have hfar : ¬wait.natAbs < Binary64.rangeBound := by decide +kernel
  clear_value wait
  have hinfinite : ¬(Settings.ofEnvironment env).HasFiniteWaits := by
    intro hfinite
    have hrange := (Settings.hasFiniteWaits_ofEnvironment_iff.1 hfinite).1
    exact hfar (hrange wait (Numeral.int?_ofInt hdigits))
  have hrefused := refused_of_not_hasFiniteWaits hsendable hinfinite
  refine ⟨⟨url, written, hsendable⟩, hrefused.requests_eq script, hrefused.result_eq script, ?_⟩
  have hpolicy := Policy.ofSettings_of_hasExactWaits (s := Settings.ofEnvironment [])
    ⟨by decide, by decide⟩
  obtain ⟨request, hurl, -, hprepare⟩ := Call.exists_prepare_of_sendable hsendable
  obtain ⟨-, -, hresult⟩ := run_of_prepared (hprepare hpolicy) script
  rw [hresult, Trace.run_of_not_isRetryable rfl, hurl]
  exact conclude_of_readable (a := ⟨200, none, (text "[]").utf8⟩) (t := text "[]")
    ⟨by decide, by rfl⟩ c hscheme

end Delivery

end CompletionWire
