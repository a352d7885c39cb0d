import Mathlib.Data.List.Basic
import Mathlib.Algebra.Group.Nat.Basic

/-!
`DownloadMetrics` of file_transfer.rs: three saturating `u64` counters and the
`recent_attempts` deque, pushed at the front and cut back to 20 entries from
the back. The counters are naturals with `saturating_add` capped at
`u64::MAX`; the deque is a list whose head is its front.
-/

set_option autoImplicit false
set_option relaxedAutoImplicit false

namespace ChiralNetwork.Metrics

/-- `AttemptStatus`. -/
inductive AttemptStatus
  | retrying
  | success
  | failed
  deriving DecidableEq, Repr

/-- `DownloadAttemptSnapshot`; the `u32` and `u64` fields are naturals. -/
structure DownloadAttemptSnapshot where
  fileHash : String
  attempt : Nat
  maxAttempts : Nat
  status : AttemptStatus
  durationMs : Nat
  timestamp : Nat
  deriving DecidableEq, Repr

/-- `DownloadMetricsSnapshot`, the copy handed to readers. -/
structure DownloadMetricsSnapshot where
  totalSuccess : Nat
  totalFailures : Nat
  totalRetries : Nat
  recentAttempts : List DownloadAttemptSnapshot
  deriving DecidableEq, Repr

/-- `DownloadMetrics`; `recentAttempts` lists the deque from front to back. -/
structure DownloadMetrics where
  totalSuccess : Nat
  totalFailures : Nat
  totalRetries : Nat
  recentAttempts : List DownloadAttemptSnapshot
  deriving DecidableEq, Repr

/-- `DownloadMetrics::default()`. -/
def DownloadMetrics.default : DownloadMetrics := ⟨0, 0, 0, []⟩

/-- `u64::MAX`. -/
def u64Max : Nat := 2 ^ 64 - 1

/-- `u64::saturating_add`. -/
def saturatingAdd (a b : Nat) : Nat := min (a + b) u64Max

/-- `while self.recent_attempts.len() > 20 { self.recent_attempts.pop_back(); }` -/
def popBackWhileOver (recent : List DownloadAttemptSnapshot) : List DownloadAttemptSnapshot :=
  if recent.length > 20 then popBackWhileOver recent.dropLast else recent
termination_by recent.length
decreasing_by simp only [List.length_dropLast]; omega

/-- `DownloadMetrics::record_attempt`. -/
def recordAttempt (m : DownloadMetrics) (snapshot : DownloadAttemptSnapshot) : DownloadMetrics :=
  let m := match snapshot.status with
    | .retrying => { m with totalRetries := saturatingAdd m.totalRetries 1 }
    | .success => { m with totalSuccess := saturatingAdd m.totalSuccess 1 }
    | .failed => { m with totalFailures := saturatingAdd m.totalFailures 1 }
  { m with recentAttempts := popBackWhileOver (snapshot :: m.recentAttempts) }

/-- `DownloadMetrics::snapshot`. -/
def snapshot (m : DownloadMetrics) : DownloadMetricsSnapshot :=
  ⟨m.totalSuccess, m.totalFailures, m.totalRetries, m.recentAttempts⟩

/-- How many snapshots of a sequence have the given status. -/
def statusCount (st : AttemptStatus) (s : List DownloadAttemptSnapshot) : Nat :=
  (s.map DownloadAttemptSnapshot.status).count st

/-- What every metrics value built by `record_attempt` satisfies. -/
def DownloadMetrics.Bounded (m : DownloadMetrics) : Prop :=
  m.totalSuccess ≤ u64Max ∧ m.totalFailures ≤ u64Max ∧ m.totalRetries ≤ u64Max ∧
    m.recentAttempts.length ≤ 20

theorem popBackWhileOver_eq_take (recent : List DownloadAttemptSnapshot) :
    popBackWhileOver recent = recent.take 20 := by
  induction recent using popBackWhileOver.induct with
  | case1 recent long ih =>
    rw [popBackWhileOver, if_pos long, ih, List.dropLast_eq_take, List.take_take]
    congr 1
    omega
  | case2 recent short =>
    rw [popBackWhileOver, if_neg short, List.take_of_length_le (by omega)]

private theorem take_append_take (xs ys : List DownloadAttemptSnapshot) (n : Nat) :
    (xs ++ ys.take n).take n = (xs ++ ys).take n := by
  simp only [List.take_append_eq_append_take, List.take_take]
  congr 2
  omega

@[simp] theorem recordAttempt_recentAttempts (m : DownloadMetrics) (a : DownloadAttemptSnapshot) :
    (recordAttempt m a).recentAttempts = (a :: m.recentAttempts).take 20 := by
  rw [recordAttempt, popBackWhileOver_eq_take]
  cases a.status <;> rfl

@[simp] theorem recordAttempt_totalSuccess (m : DownloadMetrics) (a : DownloadAttemptSnapshot) :
    (recordAttempt m a).totalSuccess =
      if a.status = .success then saturatingAdd m.totalSuccess 1 else m.totalSuccess := by
  rcases a with ⟨_, _, _, st, _, _⟩
  cases st <;> rfl

@[simp] theorem recordAttempt_totalFailures (m : DownloadMetrics) (a : DownloadAttemptSnapshot) :
    (recordAttempt m a).totalFailures =
      if a.status = .failed then saturatingAdd m.totalFailures 1 else m.totalFailures := by
  rcases a with ⟨_, _, _, st, _, _⟩
  cases st <;> rfl

@[simp] theorem recordAttempt_totalRetries (m : DownloadMetrics) (a : DownloadAttemptSnapshot) :
    (recordAttempt m a).totalRetries =
      if a.status = .retrying then saturatingAdd m.totalRetries 1 else m.totalRetries := by
  rcases a with ⟨_, _, _, st, _, _⟩
  cases st <;> rfl

@[simp] theorem statusCount_nil (st : AttemptStatus) : statusCount st [] = 0 := rfl

@[simp] theorem statusCount_cons (st : AttemptStatus) (a : DownloadAttemptSnapshot)
    (s : List DownloadAttemptSnapshot) :
    statusCount st (a :: s) = statusCount st s + if a.status = st then 1 else 0 := by
  simp [statusCount, List.count_cons]

private theorem saturate_bump (x c : Nat) (p : Prop) [Decidable p] :
    min ((if p then saturatingAdd x 1 else x) + c) u64Max =
      min (x + (c + if p then 1 else 0)) u64Max := by
  unfold saturatingAdd
  split <;> omega

private theorem bump_le {x : Nat} (h : x ≤ u64Max) (p : Prop) [Decidable p] :
    (if p then saturatingAdd x 1 else x) ≤ u64Max := by
  unfold saturatingAdd
  split <;> omega

theorem recordAttempt_bounded {m : DownloadMetrics} (h : m.Bounded) (a : DownloadAttemptSnapshot) :
    (recordAttempt m a).Bounded := by
  obtain ⟨hs, hf, hr, -⟩ := h
  refine ⟨?_, ?_, ?_, ?_⟩
  · simpa using bump_le hs _
  · simpa using bump_le hf _
  · simpa using bump_le hr _
  · simp only [recordAttempt_recentAttempts, List.length_take]; omega

theorem foldl_recordAttempt {m : DownloadMetrics} (h : m.Bounded) (s : List DownloadAttemptSnapshot) :
    s.foldl recordAttempt m =
      ⟨min (m.totalSuccess + statusCount .success s) u64Max,
        min (m.totalFailures + statusCount .failed s) u64Max,
        min (m.totalRetries + statusCount .retrying s) u64Max,
        (s.reverse ++ m.recentAttempts).take 20⟩ := by
  induction s generalizing m with
  | nil =>
    obtain ⟨hs, hf, hr, hl⟩ := h
    simp [List.take_of_length_le hl, Nat.min_eq_left, hs, hf, hr]
  | cons a s ih =>
    rw [List.foldl_cons, ih (recordAttempt_bounded h a)]
    simp only [recordAttempt_totalSuccess, recordAttempt_totalFailures, recordAttempt_totalRetries,
      recordAttempt_recentAttempts, statusCount_cons, List.reverse_cons, List.append_assoc,
      List.singleton_append, take_append_take, saturate_bump]

theorem default_bounded : DownloadMetrics.default.Bounded := by
  simp [DownloadMetrics.Bounded, DownloadMetrics.default]

/-- From `DownloadMetrics::default()`, recording any sequence leaves each counter
at its status count saturated at `u64::MAX`, and the deque holding the 20 newest
snapshots, newest first; `snapshot()` copies exactly these values. -/
theorem record_attempts_from_default (s : List DownloadAttemptSnapshot) :
    s.foldl recordAttempt DownloadMetrics.default =
        ⟨min (statusCount .success s) u64Max, min (statusCount .failed s) u64Max,
          min (statusCount .retrying s) u64Max, s.reverse.take 20⟩ ∧
      (s.foldl recordAttempt DownloadMetrics.default).recentAttempts.length ≤ 20 ∧
      snapshot (s.foldl recordAttempt DownloadMetrics.default) =
        ⟨min (statusCount .success s) u64Max, min (statusCount .failed s) u64Max,
          min (statusCount .retrying s) u64Max, s.reverse.take 20⟩ := by
  have h : s.foldl recordAttempt DownloadMetrics.default =
      ⟨min (statusCount .success s) u64Max, min (statusCount .failed s) u64Max,
        min (statusCount .retrying s) u64Max, s.reverse.take 20⟩ := by
    simpa [DownloadMetrics.default] using foldl_recordAttempt default_bounded s
  refine ⟨h, ?_, ?_⟩
  · rw [h, List.length_take]
    exact Nat.min_le_left _ _
  · rw [h]
    rfl

end ChiralNetwork.Metrics
