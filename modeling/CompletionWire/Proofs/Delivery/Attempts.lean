import CompletionWire.Delivery
import CompletionWire.Proofs.Decimal.Whole

/-!
# The attempts of a delivery

A script settles a request at its first entry that is not an error of the transport; behind its end
every further entry is one. How many attempts are made is the place of that entry or the limit,
whichever comes first, and the outcome is the entry of the last attempt. Waits are computed on
binary64 numbers, and as long as the bounds of a wait are kept exactly by these, a wait is the same
formula on whole numbers.
-/

namespace CompletionWire

namespace Reception

def isRetryable : Reception → Bool
  | .answer _ => false
  | .error e => e.isTransport

def outcome : Reception → Except NetworkError Answer
  | .answer a => .ok a
  | .error e => .error e

theorem exists_transport_of_isRetryable {r : Reception} (h : r.isRetryable = true) :
    ∃ error message, r = .error (.transport error message) := by
  cases r with
  | answer a => cases h
  | error e =>
    cases e with
    | transport error message => exact ⟨error, message, rfl⟩
    | other name message => cases h

end Reception

namespace Script

/-- What arrives at an attempt, the first one having number zero. -/
def entry (script : Script) (i : Nat) : Reception := script[i]?.getD (.error exhausted)

/-- The place of the first entry that settles a request, if there is one. -/
def settled? (script : Script) : Option Nat := script.findIdx? (!·.isRetryable)

/-- How many attempts are made when no more than `limit` are allowed. -/
def attempts (script : Script) (limit : Nat) : Nat :=
  match script.settled? with
  | some i => min (i + 1) limit
  | none => limit

theorem entry_zero (script : Script) : script.entry 0 = script.next := by
  cases script <;> rfl

theorem entry_succ (script : Script) (i : Nat) : script.entry (i + 1) = entry script.tail i := by
  cases script <;> simp [entry]

theorem isRetryable_exhausted : (Reception.error exhausted).isRetryable = true := rfl

theorem settled?_of_not_isRetryable {script : Script} (h : script.next.isRetryable = false) :
    script.settled? = some 0 := by
  cases script with
  | nil => simp [next, isRetryable_exhausted] at h
  | cons r rest =>
    have hr : r.isRetryable = false := h
    simp [settled?, List.findIdx?_cons, hr]

theorem settled?_of_isRetryable {script : Script} (h : script.next.isRetryable = true) :
    script.settled? = (settled? script.tail).map (· + 1) := by
  cases script with
  | nil => rfl
  | cons r rest =>
    have hr : r.isRetryable = true := h
    simp [settled?, List.findIdx?_cons, hr]

theorem isRetryable_entry_of_unsettled {script : Script} {i : Nat}
    (h : ∀ j, script.settled? = some j → i < j) : (script.entry i).isRetryable = true := by
  induction i generalizing script with
  | zero =>
    rw [entry_zero]
    by_contra hr
    have := h 0 (settled?_of_not_isRetryable (by simpa using hr))
    omega
  | succ i ih =>
    rw [entry_succ]
    apply ih
    intro j hj
    cases hr : script.next.isRetryable with
    | false =>
      have := h 0 (settled?_of_not_isRetryable hr)
      omega
    | true =>
      have := h (j + 1) (by rw [settled?_of_isRetryable hr, hj]; rfl)
      omega

theorem attempts_of_settled {script : Script} {i limit : Nat} (h : script.settled? = some i)
    (hi : i < limit) : script.attempts limit = i + 1 := by
  rw [attempts, h]
  exact Nat.min_eq_left hi

theorem attempts_of_unsettled {script : Script} {limit : Nat}
    (h : ∀ i, script.settled? = some i → limit ≤ i) : script.attempts limit = limit := by
  rw [attempts]
  cases hi : script.settled? with
  | none => rfl
  | some i => exact Nat.min_eq_right (Nat.le_succ_of_le (h i hi))

theorem attempts_of_not_isRetryable {script : Script} (h : script.next.isRetryable = false)
    (limit : Nat) : script.attempts (limit + 1) = 1 := by
  simp [attempts, settled?_of_not_isRetryable h]

theorem attempts_of_isRetryable {script : Script} (h : script.next.isRetryable = true)
    (limit : Nat) : script.attempts (limit + 1) = attempts script.tail limit + 1 := by
  rw [attempts, attempts, settled?_of_isRetryable h]
  cases settled? script.tail <;> simp

theorem attempts_one (script : Script) : script.attempts 1 = 1 := by
  rw [attempts]
  cases script.settled? <;> simp

theorem attempts_pos (script : Script) (limit : Nat) : 0 < script.attempts (limit + 1) := by
  rw [attempts]
  cases script.settled? <;> simp

theorem attempts_sub_one_of_isRetryable {script : Script} (h : script.next.isRetryable = true)
    (limit : Nat) :
    script.attempts (limit + 1 + 1) - 1 = attempts script.tail (limit + 1) - 1 + 1 := by
  have := attempts_pos script.tail limit
  rw [attempts_of_isRetryable h]
  omega

end Script

namespace Trace

/-! ### One attempt -/

theorem run_of_not_isRetryable {script : Script} (h : script.next.isRetryable = false) (p : Policy)
    (retries n : Nat) : run p retries n script = ⟨[], [], script.next.outcome⟩ := by
  rw [run.eq_def]
  cases hnext : script.next with
  | answer a => rfl
  | error e =>
    rw [hnext] at h
    have he : e.isTransport = false := h
    cases retries <;> simp [he, Reception.outcome]

theorem run_zero (p : Policy) (n : Nat) (script : Script) :
    run p 0 n script = ⟨[], [], script.next.outcome⟩ := by
  rw [run]
  cases script.next <;> rfl

theorem exists_run_of_isRetryable {script : Script} (h : script.next.isRetryable = true)
    (p : Policy) (retries n : Nat) :
    ∃ e, script.next = .error e ∧
      run p (retries + 1) n script = (run p retries (n + 1) script.tail).after (p.wait n) e := by
  rw [run]
  cases hnext : script.next with
  | answer a => simp [hnext, Reception.isRetryable] at h
  | error e =>
    rw [hnext] at h
    have he : e.isTransport = true := h
    exact ⟨e, rfl, by simp only [he, if_true]⟩

/-! ### All attempts -/

/-- The waits are those behind the attempts that were not the last, in order. -/
theorem waits_run (p : Policy) (retries n : Nat) (script : Script) :
    (run p retries n script).waits =
      (List.range (script.attempts (retries + 1) - 1)).map fun i => p.wait (n + i) := by
  induction retries generalizing n script with
  | zero =>
    rw [Script.attempts_one, run_zero]
    rfl
  | succ retries ih =>
    cases hr : script.next.isRetryable with
    | false =>
      rw [Script.attempts_of_not_isRetryable hr, run_of_not_isRetryable hr]
      rfl
    | true =>
      obtain ⟨e, -, hrun⟩ := exists_run_of_isRetryable hr p retries n
      rw [hrun, Script.attempts_sub_one_of_isRetryable hr, List.range_succ_eq_map]
      simp only [after, ih, List.map_cons, List.map_map, Nat.add_zero, List.cons.injEq, true_and]
      apply List.map_congr_left
      intro i _
      simp only [Function.comp_apply]
      congr 1
      omega

/-- The outcome is that of the last attempt. -/
theorem outcome_run (p : Policy) (retries n : Nat) (script : Script) :
    (run p retries n script).outcome =
      (script.entry (script.attempts (retries + 1) - 1)).outcome := by
  induction retries generalizing n script with
  | zero => rw [Script.attempts_one, Script.entry_zero, run_zero]
  | succ retries ih =>
    cases hr : script.next.isRetryable with
    | false =>
      rw [Script.attempts_of_not_isRetryable hr, run_of_not_isRetryable hr, Nat.sub_self,
        Script.entry_zero]
    | true =>
      obtain ⟨e, -, hrun⟩ := exists_run_of_isRetryable hr p retries n
      rw [hrun, Script.attempts_sub_one_of_isRetryable hr, Script.entry_succ]
      exact ih (n + 1) script.tail

end Trace

end CompletionWire
