import ChiralNetwork.Metrics
import Mathlib.Order.Monotone.Basic

/-!
`FileTransferService::download_with_retries` and `backoff_delay`. The loop is
run against the observations of each attempt: the result `handle_download_file`
returns and the two clock readings that go into the attempt's snapshot. It
threads the metrics that `emit_attempt` records into, and lists its effects in
order: the backoff sleeps, the calls of `handle_download_file`, and the
`emit_attempt` calls (record into the metrics, then send the event).

The attempt budget `maxAttempts` is a parameter; the code's
`MAX_DOWNLOAD_ATTEMPTS` is `maxDownloadAttempts`.
-/

set_option autoImplicit false
set_option relaxedAutoImplicit false

namespace ChiralNetwork.Retry

open ChiralNetwork.Metrics

/-- `MAX_DOWNLOAD_ATTEMPTS`. -/
def maxDownloadAttempts : Nat := 3

/-- `BASE_BACKOFF_MS`. -/
def baseBackoffMs : Nat := 250

/-- `MAX_BACKOFF_MS`. -/
def maxBackoffMs : Nat := 1500

/-- `u64::saturating_mul`. -/
def saturatingMul (a b : Nat) : Nat := min (a * b) u64Max

/-- `FileTransferService::backoff_delay`, in milliseconds. -/
def backoffDelay (attempt : Nat) : Nat :=
  if attempt ≤ 1 then 0
  else
    let shift := min (attempt - 1) 4
    let multiplier := 1 <<< shift
    let delay := saturatingMul baseBackoffMs multiplier
    min delay maxBackoffMs

/-- What one attempt observes: the result of `handle_download_file` and the
clock readings of its snapshot. -/
structure AttemptIo where
  result : Except String Unit
  durationMs : Nat
  timestamp : Nat

/-- How the loop goes on once an attempt's snapshot is emitted. -/
inductive After
  | done (result : Except String Unit)
  | again (lastError : Option String)

/-- The body of the `match result` of attempt number `attempt`: its snapshot,
and whether the loop returns or goes round again. -/
def attemptOutcome (maxAttempts : Nat) (fileHash : String) (attempt : Nat) (io : AttemptIo) :
    DownloadAttemptSnapshot × After :=
  match io.result with
  | .ok () => (⟨fileHash, attempt, maxAttempts, .success, io.durationMs, io.timestamp⟩, .done (.ok ()))
  | .error err =>
    let status := if attempt ≥ maxAttempts then AttemptStatus.failed else .retrying
    (⟨fileHash, attempt, maxAttempts, status, io.durationMs, io.timestamp⟩,
      if attempt ≥ maxAttempts then .done (.error err) else .again (some err))

/-- A step of `download_with_retries` a caller can see. -/
inductive Effect
  | sleep (ms : Nat)
  | handle (attempt : Nat)
  | emit (snapshot : DownloadAttemptSnapshot)
  deriving DecidableEq, Repr

/-- The snapshot an effect emits, if any. -/
def Effect.emitted : Effect → Option DownloadAttemptSnapshot
  | .emit snapshot => some snapshot
  | _ => none

/-- `if attempt > 1 { let delay = backoff_delay(attempt); if delay > 0 { sleep(delay) } }` -/
def sleepBefore (attempt : Nat) : List Effect :=
  if attempt > 1 then
    let delay := backoffDelay attempt
    if delay > 0 then [.sleep delay] else []
  else []

/-- The effects, the returned result and the metrics of a run. -/
structure DownloadRun where
  effects : List Effect
  result : Except String Unit
  metrics : DownloadMetrics

/-- The `while attempt < MAX_DOWNLOAD_ATTEMPTS` loop from counter `attempt`. -/
def downloadLoop (maxAttempts : Nat) (fileHash : String) (io : Nat → AttemptIo)
    (attempt : Nat) (lastError : Option String) (metrics : DownloadMetrics) : DownloadRun :=
  if attempt < maxAttempts then
    let (snapshot, after) := attemptOutcome maxAttempts fileHash (attempt + 1) (io (attempt + 1))
    let effects := sleepBefore (attempt + 1) ++ [.handle (attempt + 1), .emit snapshot]
    let metrics := recordAttempt metrics snapshot
    match after with
    | .done result => ⟨effects, result, metrics⟩
    | .again lastError =>
      let rest := downloadLoop maxAttempts fileHash io (attempt + 1) lastError metrics
      { rest with effects := effects ++ rest.effects }
  else ⟨[], .error (lastError.getD "Download failed"), metrics⟩
termination_by maxAttempts - attempt

/-- `FileTransferService::download_with_retries`, observing `io n` at attempt `n`. -/
def downloadWithRetries (maxAttempts : Nat) (fileHash : String) (io : Nat → AttemptIo)
    (metrics : DownloadMetrics) : DownloadRun :=
  downloadLoop maxAttempts fileHash io 0 none metrics

/-- The snapshots a run emits, in order. -/
def DownloadRun.emittedSnapshots (run : DownloadRun) : List DownloadAttemptSnapshot :=
  run.effects.filterMap Effect.emitted

theorem backoffDelay_eq {n : Nat} (hn : 2 ≤ n) :
    backoffDelay n = min (baseBackoffMs * 2 ^ (n - 1)) maxBackoffMs := by
  have cap : 4000 ≤ u64Max := by decide
  simp only [backoffDelay, if_neg (show ¬n ≤ 1 by omega), saturatingMul, baseBackoffMs,
    maxBackoffMs, Nat.one_shiftLeft]
  by_cases early : n - 1 ≤ 4
  · have : 2 ^ (n - 1) ≤ 2 ^ 4 := Nat.pow_le_pow_right Nat.two_pos early
    rw [Nat.min_eq_left early]
    omega
  · have : 2 ^ 4 ≤ 2 ^ (n - 1) := Nat.pow_le_pow_right Nat.two_pos (by omega)
    rw [Nat.min_eq_right (show 4 ≤ n - 1 by omega)]
    omega

theorem backoffDelay_le_max (n : Nat) : backoffDelay n ≤ maxBackoffMs := by
  unfold backoffDelay
  split
  · exact Nat.zero_le _
  · exact Nat.min_le_right _ _

theorem backoffDelay_pos {n : Nat} (hn : 2 ≤ n) : 0 < backoffDelay n := by
  rw [backoffDelay_eq hn]
  have := Nat.one_le_two_pow (n := n - 1)
  simp only [baseBackoffMs, maxBackoffMs]
  omega

theorem backoffDelay_mono : Monotone backoffDelay := by
  intro n n' le
  by_cases hn : 2 ≤ n
  · rw [backoffDelay_eq hn, backoffDelay_eq (le_trans hn le)]
    have := Nat.pow_le_pow_right Nat.two_pos (show n - 1 ≤ n' - 1 by omega)
    simp only [baseBackoffMs, maxBackoffMs]
    omega
  · simp [backoffDelay, show n ≤ 1 by omega]

theorem sleepBefore_eq (n : Nat) :
    sleepBefore n = if 2 ≤ n then [.sleep (backoffDelay n)] else [] := by
  by_cases hn : 2 ≤ n
  · simp [sleepBefore, hn, show 1 < n by omega, backoffDelay_pos hn]
  · simp [sleepBefore, hn, show ¬1 < n by omega]

/-- The snapshot attempt `n` should emit in a run of `k` attempts: all but the
last retrying, the last a success if its outcome is `Ok` and a failure if not. -/
def expectedSnapshot (maxAttempts : Nat) (fileHash : String) (io : Nat → AttemptIo)
    (k n : Nat) : DownloadAttemptSnapshot :=
  ⟨fileHash, n, maxAttempts,
    if n < k then .retrying else if (io n).result.toBool then .success else .failed,
    (io n).durationMs, (io n).timestamp⟩

/-- The effects attempt `n` should have: a backoff sleep from attempt 2 on, the
call of `handle_download_file`, and the emit of its snapshot. -/
def expectedAttempt (maxAttempts : Nat) (fileHash : String) (io : Nat → AttemptIo)
    (k n : Nat) : List Effect :=
  (if 2 ≤ n then [.sleep (backoffDelay n)] else []) ++
    [.handle n, .emit (expectedSnapshot maxAttempts fileHash io k n)]

theorem downloadLoop_spec (maxAttempts : Nat) (fileHash : String) (io : Nat → AttemptIo)
    (a : Nat) (lastError : Option String) (m : DownloadMetrics) (h : a < maxAttempts) :
    ∃ k, a < k ∧ k ≤ maxAttempts ∧ (∀ n, a < n → n < k → (io n).result.toBool = false) ∧
      ((io k).result.toBool = true ∨ k = maxAttempts) ∧
      downloadLoop maxAttempts fileHash io a lastError m =
        ⟨(List.range' (a + 1) (k - a)).flatMap (expectedAttempt maxAttempts fileHash io k),
          (io k).result,
          ((List.range' (a + 1) (k - a)).map (expectedSnapshot maxAttempts fileHash io k)).foldl
            recordAttempt m⟩ := by
  rw [downloadLoop, if_pos h]
  rcases hr : (io (a + 1)).result with err | ⟨⟩
  · by_cases last : a + 1 ≥ maxAttempts
    · refine ⟨a + 1, by omega, by omega, fun n lo hi => by omega, Or.inr (by omega), ?_⟩
      simp [attemptOutcome, hr, last, sleepBefore_eq, expectedAttempt, expectedSnapshot,
        Except.toBool]
    · obtain ⟨k, lo, hi, early, final, rest⟩ := downloadLoop_spec maxAttempts fileHash io (a + 1)
        (some err) (recordAttempt m ⟨fileHash, a + 1, maxAttempts, .retrying,
          (io (a + 1)).durationMs, (io (a + 1)).timestamp⟩) (by omega)
      refine ⟨k, by omega, hi, fun n lo' hi' => ?_, final, ?_⟩
      · rcases Nat.lt_or_ge (a + 1) n with gt | le
        · exact early n gt hi'
        · simp [show n = a + 1 by omega, hr, Except.toBool]
      · have len : k - a = (k - (a + 1)) + 1 := by omega
        simp only [attemptOutcome, hr, last, if_false] at rest ⊢
        rw [rest, len, List.range'_succ]
        simp [sleepBefore_eq, expectedAttempt, expectedSnapshot, show a + 1 < k by omega]
  · refine ⟨a + 1, by omega, by omega, fun n lo hi => by omega, Or.inl (by simp [hr, Except.toBool]), ?_⟩
    simp [attemptOutcome, hr, sleepBefore_eq, expectedAttempt, expectedSnapshot, Except.toBool]
termination_by maxAttempts - a

/-- For every budget `N ≥ 1`, all attempt observations and every prior metrics
state: the loop makes `k` attempts, `k` the first successful attempt within the
budget or else `N`; its effects are exactly those of attempts `1..k` in order,
it records exactly their snapshots, and it returns the outcome of attempt `k`.
So it returns `Ok` iff an attempt within the budget succeeds, and otherwise the
`N`-th error, never the fallback after the loop. The delays follow the capped
doubling schedule, never decrease and never pass the cap. -/
theorem download_with_retries_run (N : Nat) (hN : 1 ≤ N) (fileHash : String)
    (io : Nat → AttemptIo) (m : DownloadMetrics) :
    (∃ k, 1 ≤ k ∧ k ≤ N ∧ (∀ n, 1 ≤ n → n < k → (io n).result.toBool = false) ∧
      ((io k).result.toBool = true ∨ k = N) ∧
      (downloadWithRetries N fileHash io m).effects =
        (List.range' 1 k).flatMap (expectedAttempt N fileHash io k) ∧
      (downloadWithRetries N fileHash io m).metrics =
        ((List.range' 1 k).map (expectedSnapshot N fileHash io k)).foldl recordAttempt m ∧
      (downloadWithRetries N fileHash io m).result = (io k).result) ∧
    ((downloadWithRetries N fileHash io m).result = .ok () ↔
      ∃ n, 1 ≤ n ∧ n ≤ N ∧ (io n).result = .ok ()) ∧
    ((∀ n, 1 ≤ n → n ≤ N → (io n).result.toBool = false) →
      (downloadWithRetries N fileHash io m).result = (io N).result) ∧
    (∀ n, 2 ≤ n → backoffDelay n = min (baseBackoffMs * 2 ^ (n - 1)) maxBackoffMs) ∧
    Monotone backoffDelay ∧ ∀ n, backoffDelay n ≤ maxBackoffMs := by
  obtain ⟨k, lo, hi, early, final, run⟩ := downloadLoop_spec N fileHash io 0 none m hN
  simp only [Nat.zero_add, Nat.sub_zero] at run
  have result : (downloadWithRetries N fileHash io m).result = (io k).result := by
    rw [downloadWithRetries, run]
  have ok_iff : (io k).result = .ok () ↔ (io k).result.toBool = true := by
    cases (io k).result <;> simp [Except.toBool]
  refine ⟨⟨k, lo, hi, fun n lo' => early n (by omega), final, by rw [downloadWithRetries, run],
    by rw [downloadWithRetries, run], result⟩, ?_, fun none => ?_, fun n => backoffDelay_eq,
    backoffDelay_mono, backoffDelay_le_max⟩
  · rw [result]
    refine ⟨fun hk => ⟨k, lo, hi, hk⟩, fun ⟨n, lo', hi', hn⟩ => final.elim ok_iff.mpr fun last => ?_⟩
    obtain rfl : n = k := by
      by_contra ne
      have := early n lo' (by omega)
      simp [hn, Except.toBool] at this
    exact hn
  · have : k = N := final.resolve_left (by simp [none k lo hi])
    rw [result, this]

/-- The missing-file test: three attempts, all "File not found locally". -/
theorem missing_file_fails_three_times :
    1 ≤ maxDownloadAttempts ∧
      (downloadWithRetries maxDownloadAttempts "missing-hash"
        (fun _ => ⟨.error "File not found locally", 0, 0⟩) DownloadMetrics.default).result =
        .error "File not found locally" :=
  ⟨by decide, (download_with_retries_run maxDownloadAttempts (by decide) "missing-hash"
    (fun _ => ⟨.error "File not found locally", 0, 0⟩) DownloadMetrics.default).2.2.1
      (fun _ _ _ => rfl)⟩

end ChiralNetwork.Retry
