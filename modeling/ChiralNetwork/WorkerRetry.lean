import ChiralNetwork.FileTransfer

/-!
The worker against `download_with_retries`. The service model cuts the retry
loop at its awaits: an attempt step (the backoff, `handle_download_file`, the
snapshot and `record_attempt`), then the send of `emit_attempt`. Taken attempt
by attempt against the file system's answers, those steps make exactly the loop
`Retry.downloadLoop`: the same snapshots recorded, and queued while the handle
lives, in the same order, the same metrics, and the reply to the same result.
So what `Retry` proves of `download_with_retries` holds of the worker's downloads.
-/

set_option autoImplicit false
set_option relaxedAutoImplicit false

namespace ChiralNetwork.WorkerRetry

open ChiralNetwork.FileTransfer
open ChiralNetwork.Metrics (recordAttempt)
open ChiralNetwork.Retry (AttemptIo After attemptOutcome downloadLoop downloadWithRetries
  maxDownloadAttempts sleepBefore Effect DownloadRun)

/-- What attempt `n` of the worker shows the loop: the result of
`handle_download_file` against the store, and the two clock readings. -/
def attemptIo (fileHash : String) (storedFiles : StoredFiles) (ios : Nat → WorkerIo) (n : Nat) :
    AttemptIo :=
  ⟨(handleDownloadFile fileHash storedFiles (ios n).write).1, (ios n).durationMs, (ios n).timestamp⟩

/-- The worker's steps for attempts `a + 1 .. k`: each attempt, then the send of its snapshot. -/
def attemptSteps (ios : Nat → WorkerIo) (a k : Nat) : List Action :=
  (List.range' (a + 1) (k - a)).flatMap fun n => [.work (ios n), .work (ios n)]

/-- The event queue after sends of `events`: lost once the handle is gone. -/
def queued (s : FileTransferService) (events : List FileTransferEvent) : List FileTransferEvent :=
  if s.dropped then s.eventQueue else s.eventQueue ++ events

/-- Where a run of the loop leaves the service: its metrics, its snapshots
queued, and the worker at the reply to its result. -/
def afterLoop (s : FileTransferService) (outputPath : String) (loop : DownloadRun) :
    FileTransferService :=
  { s with
    downloadMetrics := loop.metrics
    eventQueue := queued s (loop.emittedSnapshots.map .downloadAttempt)
    worker := downloadDone outputPath loop.result }

theorem sleepBefore_emitted (n : Nat) : (sleepBefore n).filterMap Effect.emitted = [] := by
  simp only [sleepBefore]
  split_ifs <;> rfl

theorem attemptOutcome_again {fileHash : String} {n : Nat} {io : AttemptIo} {snapshot : _}
    {lastError : Option String}
    (h : attemptOutcome maxDownloadAttempts fileHash n io = (snapshot, .again lastError)) :
    n < maxDownloadAttempts := by
  unfold attemptOutcome at h
  split at h
  · cases h
  · by_contra hn
    simp [show n ≥ maxDownloadAttempts by omega] at h

theorem attemptSteps_succ (ios : Nat → WorkerIo) {a k : Nat} (hk : a + 1 < k) :
    attemptSteps ios a k = [.work (ios (a + 1)), .work (ios (a + 1))] ++ attemptSteps ios (a + 1) k := by
  rw [attemptSteps, attemptSteps, show k - a = (k - (a + 1)) + 1 by omega, List.range'_succ,
    List.flatMap_cons]

theorem run_attempt (ios : Nat → WorkerIo) {s : FileTransferService}
    {fileHash outputPath : String} {a : Nat} {lastError : Option String}
    (hw : s.worker = .attempt fileHash outputPath a lastError) (ha : a < maxDownloadAttempts)
    (room : s.dropped = true ∨ s.eventQueue.length < channelCapacity) {snapshot : _} {after : After}
    (hout : attemptOutcome maxDownloadAttempts fileHash (a + 1)
      (attemptIo fileHash s.storedFiles ios (a + 1)) = (snapshot, after)) :
    run s [.work (ios (a + 1)), .work (ios (a + 1))] =
      some ({ s with
          downloadMetrics := recordAttempt s.downloadMetrics snapshot
          eventQueue := queued s [.downloadAttempt snapshot]
          worker := afterAttempt fileHash outputPath (a + 1) after },
        ((handleDownloadFile fileHash s.storedFiles (ios (a + 1)).write).2.map
          (Obs.wrote fileHash outputPath)).toList ++ [.recorded snapshot]) := by
  simp only [attemptIo] at hout
  cases hd : s.dropped
  · have free : s.eventQueue.length < channelCapacity := room.resolve_left (by simp [hd])
    simp [run, step, workStep, hw, ha, hout, sendEvent, hd, free, queued]
  · simp [run, step, workStep, hw, ha, hout, sendEvent, hd, queued]

theorem run_attempts (ios : Nat → WorkerIo) (fileHash outputPath : String) :
    ∀ d a lastError (s : FileTransferService), maxDownloadAttempts - a = d →
      s.worker = .attempt fileHash outputPath a lastError → a < maxDownloadAttempts →
      (s.dropped = true ∨ s.eventQueue.length + (maxDownloadAttempts - a) ≤ channelCapacity) →
      ∃ k obs, a < k ∧
        run s (attemptSteps ios a k) = some (afterLoop s outputPath (downloadLoop
          maxDownloadAttempts fileHash (attemptIo fileHash s.storedFiles ios) a lastError
          s.downloadMetrics), obs) ∧
        recordedSnapshots obs = (downloadLoop maxDownloadAttempts fileHash
          (attemptIo fileHash s.storedFiles ios) a lastError s.downloadMetrics).emittedSnapshots := by
  intro d
  induction d with
  | zero => intro a _ _ hd _ ha; omega
  | succ d ih =>
    intro a lastError s hd hw ha room
    rcases hout : attemptOutcome maxDownloadAttempts fileHash (a + 1)
      (attemptIo fileHash s.storedFiles ios (a + 1)) with ⟨snapshot, after⟩
    have first := run_attempt ios hw ha (room.imp_right (by omega)) hout
    rw [downloadLoop, if_pos ha]
    simp only [hout]
    cases after with
    | done result =>
      refine ⟨a + 1, ((handleDownloadFile fileHash s.storedFiles (ios (a + 1)).write).2.map
        (Obs.wrote fileHash outputPath)).toList ++ [.recorded snapshot], by omega, ?_, ?_⟩
      · rw [show attemptSteps ios a (a + 1) = [.work (ios (a + 1)), .work (ios (a + 1))] by
          simp [attemptSteps], first]
        simp [afterLoop, afterAttempt, DownloadRun.emittedSnapshots, sleepBefore_emitted,
          Effect.emitted]
      · simp [DownloadRun.emittedSnapshots, sleepBefore_emitted, Effect.emitted]
    | again lastError' =>
      have below := attemptOutcome_again hout
      obtain ⟨k, obs, lt, rest, recorded⟩ := ih (a + 1) lastError' { s with
          downloadMetrics := recordAttempt s.downloadMetrics snapshot
          eventQueue := queued s [.downloadAttempt snapshot]
          worker := afterAttempt fileHash outputPath (a + 1) (.again lastError') }
        (by omega) rfl below
        (by cases hd : s.dropped <;> simp [queued, hd] at room ⊢; omega)
      refine ⟨k, ((handleDownloadFile fileHash s.storedFiles (ios (a + 1)).write).2.map
        (Obs.wrote fileHash outputPath)).toList ++ [.recorded snapshot] ++ obs, by omega, ?_, ?_⟩
      · rw [attemptSteps_succ ios lt, run_append_of_eq_some first rest]
        cases hd : s.dropped <;>
          simp [afterLoop, queued, hd, DownloadRun.emittedSnapshots, sleepBefore_emitted,
            Effect.emitted, List.filterMap_append]
      · rw [recordedSnapshots_append, recorded]
        simp [DownloadRun.emittedSnapshots, sleepBefore_emitted, Effect.emitted,
          List.filterMap_append]

/-- For every run of answers from the file system, a download the worker has
just received, with room in the channel for its snapshots or the handle gone,
is `download_with_retries` against what each attempt saw: within `k` attempts
the worker's steps record the loop's snapshots, queue them while the handle
lives, leave the loop's metrics, and reach the reply to the loop's result. -/
theorem worker_download_runs_retries (ios : Nat → WorkerIo) {s : FileTransferService}
    {fileHash outputPath : String} (hw : s.worker = Worker.start (.downloadFile fileHash outputPath))
    (room : s.dropped = true ∨ s.eventQueue.length + maxDownloadAttempts ≤ channelCapacity) :
    ∃ k obs, 1 ≤ k ∧
      run s (attemptSteps ios 0 k) = some (afterLoop s outputPath (downloadWithRetries
        maxDownloadAttempts fileHash (attemptIo fileHash s.storedFiles ios) s.downloadMetrics), obs) ∧
      recordedSnapshots obs = (downloadWithRetries maxDownloadAttempts fileHash
        (attemptIo fileHash s.storedFiles ios) s.downloadMetrics).emittedSnapshots :=
  run_attempts ios fileHash outputPath _ 0 none s rfl hw (by decide) (by simpa using room)

/-- A download of a missing file from a fresh service. -/
theorem missing_download_runs_retries :
    ∃ k obs, 1 ≤ k ∧
      run { FileTransferService.new with worker := .attempt "missing-hash" "out.txt" 0 none }
          (attemptSteps (fun _ => ⟨.ok [], .ok (), 0, 0⟩) 0 k) =
        some (afterLoop { FileTransferService.new with worker := .attempt "missing-hash" "out.txt" 0 none }
          "out.txt" (downloadWithRetries maxDownloadAttempts "missing-hash"
            (attemptIo "missing-hash" FileTransferService.new.storedFiles
              fun _ => ⟨.ok [], .ok (), 0, 0⟩) FileTransferService.new.downloadMetrics), obs) ∧
      recordedSnapshots obs = (downloadWithRetries maxDownloadAttempts "missing-hash"
        (attemptIo "missing-hash" FileTransferService.new.storedFiles fun _ => ⟨.ok [], .ok (), 0, 0⟩)
        FileTransferService.new.downloadMetrics).emittedSnapshots :=
  @worker_download_runs_retries (fun _ => ⟨.ok [], .ok (), 0, 0⟩)
    { FileTransferService.new with worker := .attempt "missing-hash" "out.txt" 0 none }
    "missing-hash" "out.txt" rfl (.inr (by decide))

end ChiralNetwork.WorkerRetry
