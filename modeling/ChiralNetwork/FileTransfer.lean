import ChiralNetwork.Map
import ChiralNetwork.Sha256
import ChiralNetwork.Retry

/-!
`FileTransferService` of file_transfer.rs as a state machine: the command and
event channels `new()` makes with capacity 100, the content store, the metrics,
and the worker task `run_file_transfer_service`, stopped at one of its
`.await`s. The consumer acts through the service handle (`upload_file`,
`download_file`, `drain_events`, `store_file_data`, and dropping it); the worker
takes one step at a time from one await to the next, and sees the file system
through `WorkerIo`. What the code does under one lock, or between two awaits, is
one step.

tokio's bounded `send().await` waits while the channel holds its capacity and
fails at once once the receiver is gone; `recv().await` waits while the channel
is empty and returns `None` once it is empty and every sender is gone. Dropping
the service drops `cmd_tx` and `event_rx` together: the queued commands are
still handed to the worker, the queued events are thrown away.

A call of `drain_events(max)` is a run of `try_recv`s under the receiver's lock.
It is one step here; a call that interleaves with the worker makes the same
observations as the run of `drainEvents 1` steps it is made of. Logging, the
tracing spans and the `cfg(test)` counters are left out; the backoff sleep of an
attempt is time passing, which every step of the consumer may fill.
-/

set_option autoImplicit false
set_option relaxedAutoImplicit false

namespace ChiralNetwork.FileTransfer

open ChiralNetwork.Map (HashMap)
open ChiralNetwork.Sha256 (calculateFileHash)
open ChiralNetwork.Metrics (DownloadAttemptSnapshot DownloadMetrics DownloadMetricsSnapshot recordAttempt)
open ChiralNetwork.Retry (After attemptOutcome maxDownloadAttempts)

/-- The bytes of a file, `Vec<u8>`. -/
abbrev Bytes := List UInt8

/-- `FileTransferCommand`. -/
inductive FileTransferCommand
  | uploadFile (filePath fileName : String)
  | downloadFile (fileHash outputPath : String)
  | getStoredFiles
  deriving DecidableEq, Repr

/-- `FileTransferEvent`. -/
inductive FileTransferEvent
  | fileUploaded (fileHash fileName : String)
  | fileDownloaded (filePath : String)
  | fileNotFound (fileHash : String)
  | error (message : String)
  | downloadAttempt (snapshot : DownloadAttemptSnapshot)
  deriving DecidableEq, Repr

/-- `stored_files`: hash ↦ (name, data). -/
abbrev StoredFiles := HashMap String (String × Bytes)

/-- The capacity `new()` gives both channels. -/
def channelCapacity : Nat := 100

/-- The await the worker task stands at. `attempt` is the loop test of
`download_with_retries` with its counter and `last_error`; `send event next` is
an `event_tx.send(event).await`, after which the worker goes on as `next`. -/
inductive Worker
  | recv
  | upload (filePath fileName : String)
  | attempt (fileHash outputPath : String) (attempt : Nat) (lastError : Option String)
  | send (event : FileTransferEvent) (next : Worker)
  | stopped
  deriving DecidableEq, Repr

/-- `FileTransferService` with its worker: the two channel buffers, front
first, the store and the metrics they share, and whether the handle (with its
`cmd_tx` and `event_rx`) has been dropped. -/
structure FileTransferService where
  cmdQueue : List FileTransferCommand
  eventQueue : List FileTransferEvent
  storedFiles : StoredFiles
  downloadMetrics : DownloadMetrics
  worker : Worker
  dropped : Bool

/-- `FileTransferService::new()`, with the spawned worker at its first `recv`. -/
def FileTransferService.new : FileTransferService :=
  ⟨[], [], HashMap.empty, DownloadMetrics.default, .recv, false⟩

/-- What the file system gives one step of the worker: the result of
`tokio::fs::read`, the result of `tokio::fs::write`, and the two clock readings
of an attempt's snapshot. -/
structure WorkerIo where
  read : Except String Bytes
  write : Except String Unit
  durationMs : Nat
  timestamp : Nat

/-- A step of the system: a call through the service handle, or a step of the
worker. `submit` is the `cmd_tx.send` of `upload_file` and `download_file`. -/
inductive Action
  | submit (cmd : FileTransferCommand)
  | drainEvents (max : Nat)
  | storeFileData (fileHash fileName : String) (fileData : Bytes)
  | drop
  | work (io : WorkerIo)

/-- What a step shows: an event returned by `drain_events`, a snapshot recorded
into the metrics, the bytes `handle_download_file` writes for a hash, or what
`tokio::fs::read` returned to `handle_upload_file` for a path. -/
inductive Obs
  | drained (event : FileTransferEvent)
  | recorded (snapshot : DownloadAttemptSnapshot)
  | wrote (fileHash outputPath : String) (data : Bytes)
  | read (filePath : String) (result : Except String Bytes)
  deriving Repr

/-- `handle_upload_file`, given what `tokio::fs::read` returns: the hash, and
the store after the insert. -/
def handleUploadFile (fileName : String) (storedFiles : StoredFiles)
    (read : Except String Bytes) : Except String (String × StoredFiles) :=
  match read with
  | .error e => .error ("Failed to read file: " ++ e)
  | .ok fileData =>
    let fileHash := calculateFileHash fileData
    .ok (fileHash, storedFiles.insert fileHash (fileName, fileData))

/-- `write_output`, given what `tokio::fs::write` returns. -/
def writeOutput (write : Except String Unit) : Except String Unit :=
  match write with
  | .ok () => .ok ()
  | .error e => .error ("Failed to write file: " ++ e)

/-- `handle_download_file`: its result, and the bytes it hands to
`write_output` if the lookup finds the hash. -/
def handleDownloadFile (fileHash : String) (storedFiles : StoredFiles)
    (write : Except String Unit) : Except String Unit × Option Bytes :=
  match storedFiles.get? fileHash with
  | none => (.error "File not found locally", none)
  | some (_, fileData) => (writeOutput write, some fileData)

/-- `store_file_data`. -/
def storeFileData (storedFiles : StoredFiles) (fileHash fileName : String) (fileData : Bytes) :
    StoredFiles :=
  storedFiles.insert fileHash (fileName, fileData)

/-- `get_stored_files`: every stored (hash, name). -/
def getStoredFiles (s : FileTransferService) : List (String × String) :=
  s.storedFiles.entries.map fun (fileHash, fileName, _) => (fileHash, fileName)

/-- `download_metrics_snapshot`. -/
def downloadMetricsSnapshot (s : FileTransferService) : DownloadMetricsSnapshot :=
  Metrics.snapshot s.downloadMetrics

/-- `drain_events(max)`: up to `max` `try_recv`s, stopping at the first that
finds the channel empty; the events and the queue left. -/
def drainEvents : Nat → List FileTransferEvent → List FileTransferEvent × List FileTransferEvent
  | 0, queue => ([], queue)
  | _ + 1, [] => ([], [])
  | max + 1, event :: queue =>
    let (events, rest) := drainEvents max queue
    (event :: events, rest)

/-- Where the worker goes with a command it receives. -/
def Worker.start : FileTransferCommand → Worker
  | .uploadFile filePath fileName => .upload filePath fileName
  | .downloadFile fileHash outputPath => .attempt fileHash outputPath 0 none
  | .getStoredFiles => .recv

/-- The send after `download_with_retries` returns. -/
def downloadDone (outputPath : String) : Except String Unit → Worker
  | .ok () => .send (.fileDownloaded outputPath) .recv
  | .error e => .send (.error ("Download failed: " ++ e)) .recv

/-- Where the loop goes after the `emit_attempt` of attempt number `attempt`. -/
def afterAttempt (fileHash outputPath : String) (attempt : Nat) : After → Worker
  | .done result => downloadDone outputPath result
  | .again lastError => .attempt fileHash outputPath attempt lastError

/-- `event_tx.send(event).await`: lost at once when the receiver is gone,
queued when there is room, and otherwise the worker waits (`none`). -/
def sendEvent (s : FileTransferService) (event : FileTransferEvent) (next : Worker) :
    Option FileTransferService :=
  if s.dropped then some { s with worker := next }
  else if s.eventQueue.length < channelCapacity then
    some { s with eventQueue := s.eventQueue ++ [event], worker := next }
  else none

/-- One step of `run_file_transfer_service`, up to its next await; `none` while
it waits. An attempt step is the body of the retry loop up to the send of
`emit_attempt`: the backoff, `handle_download_file`, the snapshot and
`record_attempt`. -/
def workStep (s : FileTransferService) (io : WorkerIo) : Option (FileTransferService × List Obs) :=
  match s.worker with
  | .recv =>
    match s.cmdQueue with
    | cmd :: rest => some ({ s with cmdQueue := rest, worker := .start cmd }, [])
    | [] => if s.dropped then some ({ s with worker := .stopped }, []) else none
  | .upload filePath fileName =>
    match handleUploadFile fileName s.storedFiles io.read with
    | .ok (fileHash, storedFiles) =>
      some ({ s with storedFiles, worker := .send (.fileUploaded fileHash fileName) .recv },
        [.read filePath io.read])
    | .error e =>
      some ({ s with worker := .send (.error ("Upload failed: " ++ e)) .recv }, [.read filePath io.read])
  | .attempt fileHash outputPath attempt lastError =>
    if attempt < maxDownloadAttempts then
      let download := handleDownloadFile fileHash s.storedFiles io.write
      let outcome := attemptOutcome maxDownloadAttempts fileHash (attempt + 1)
        ⟨download.1, io.durationMs, io.timestamp⟩
      some ({ s with
          downloadMetrics := recordAttempt s.downloadMetrics outcome.1
          worker := .send (.downloadAttempt outcome.1)
            (afterAttempt fileHash outputPath (attempt + 1) outcome.2) },
        (download.2.map (Obs.wrote fileHash outputPath)).toList ++ [.recorded outcome.1])
    else some ({ s with worker := downloadDone outputPath (.error (lastError.getD "Download failed")) }, [])
  | .send event next => (sendEvent s event next).map (·, [])
  | .stopped => none

/-- One step of the system; `none` when the action cannot happen now: its await
waits, or the handle it needs is gone. -/
def step (s : FileTransferService) : Action → Option (FileTransferService × List Obs)
  | .submit cmd =>
    if s.dropped then none
    else if s.cmdQueue.length < channelCapacity then some ({ s with cmdQueue := s.cmdQueue ++ [cmd] }, [])
    else none
  | .drainEvents max =>
    if s.dropped then none
    else some ({ s with eventQueue := (drainEvents max s.eventQueue).2 },
      (drainEvents max s.eventQueue).1.map .drained)
  | .storeFileData fileHash fileName fileData =>
    if s.dropped then none
    else some ({ s with storedFiles := storeFileData s.storedFiles fileHash fileName fileData }, [])
  | .drop => if s.dropped then none else some ({ s with dropped := true, eventQueue := [] }, [])
  | .work io => workStep s io

/-- One more action after a run. -/
def thenStep (acc : Option (FileTransferService × List Obs)) (a : Action) :
    Option (FileTransferService × List Obs) :=
  acc.bind fun (s, obs) => (step s a).map fun (s', o) => (s', obs ++ o)

/-- A run of actions: the last state and everything observed, or `none` if an
action could not happen when its turn came. -/
def run (s : FileTransferService) (acts : List Action) : Option (FileTransferService × List Obs) :=
  acts.foldl thenStep (some (s, []))

@[simp] def Obs.drainedEvent : Obs → Option FileTransferEvent
  | .drained event => some event
  | _ => none

@[simp] def Obs.recordedSnapshot : Obs → Option DownloadAttemptSnapshot
  | .recorded snapshot => some snapshot
  | _ => none

@[simp] def Obs.uploadRead : Obs → Option (String × Except String Bytes)
  | .read filePath result => some (filePath, result)
  | _ => none

@[simp] def Action.submitted : Action → Option FileTransferCommand
  | .submit cmd => some cmd
  | _ => none

@[simp] def FileTransferEvent.attemptSnapshot : FileTransferEvent → Option DownloadAttemptSnapshot
  | .downloadAttempt snapshot => some snapshot
  | _ => none

/-- The events the consumer's `drain_events` calls returned, in order. -/
def drainedEvents (obs : List Obs) : List FileTransferEvent := obs.filterMap Obs.drainedEvent

/-- The snapshots recorded into the metrics, in order. -/
def recordedSnapshots (obs : List Obs) : List DownloadAttemptSnapshot :=
  obs.filterMap Obs.recordedSnapshot

/-- The reads of the uploads, in order: each path with what its read returned. -/
def uploadReads (obs : List Obs) : List (String × Except String Bytes) := obs.filterMap Obs.uploadRead

/-- The commands submitted, in arrival order. -/
def submittedCommands (acts : List Action) : List FileTransferCommand :=
  acts.filterMap Action.submitted

/-- The snapshots a sequence of events carries. -/
def attemptSnapshots (events : List FileTransferEvent) : List DownloadAttemptSnapshot :=
  events.filterMap FileTransferEvent.attemptSnapshot

@[simp] theorem drainedEvents_nil : drainedEvents [] = [] := rfl

@[simp] theorem drainedEvents_cons (o : Obs) (obs : List Obs) :
    drainedEvents (o :: obs) = o.drainedEvent.toList ++ drainedEvents obs := by
  cases o <;> rfl

@[simp] theorem drainedEvents_append (obs obs' : List Obs) :
    drainedEvents (obs ++ obs') = drainedEvents obs ++ drainedEvents obs' :=
  List.filterMap_append _ _ _

@[simp] theorem recordedSnapshots_nil : recordedSnapshots [] = [] := rfl

@[simp] theorem recordedSnapshots_cons (o : Obs) (obs : List Obs) :
    recordedSnapshots (o :: obs) = o.recordedSnapshot.toList ++ recordedSnapshots obs := by
  cases o <;> rfl

@[simp] theorem recordedSnapshots_append (obs obs' : List Obs) :
    recordedSnapshots (obs ++ obs') = recordedSnapshots obs ++ recordedSnapshots obs' :=
  List.filterMap_append _ _ _

@[simp] theorem uploadReads_nil : uploadReads [] = [] := rfl

@[simp] theorem uploadReads_cons (o : Obs) (obs : List Obs) :
    uploadReads (o :: obs) = o.uploadRead.toList ++ uploadReads obs := by
  cases o <;> rfl

@[simp] theorem uploadReads_append (obs obs' : List Obs) :
    uploadReads (obs ++ obs') = uploadReads obs ++ uploadReads obs' :=
  List.filterMap_append _ _ _

@[simp] theorem submittedCommands_nil : submittedCommands [] = [] := rfl

@[simp] theorem submittedCommands_cons (a : Action) (acts : List Action) :
    submittedCommands (a :: acts) = a.submitted.toList ++ submittedCommands acts := by
  cases a <;> rfl

@[simp] theorem submittedCommands_append (acts acts' : List Action) :
    submittedCommands (acts ++ acts') = submittedCommands acts ++ submittedCommands acts' :=
  List.filterMap_append _ _ _

@[simp] theorem attemptSnapshots_nil : attemptSnapshots [] = [] := rfl

@[simp] theorem attemptSnapshots_cons (e : FileTransferEvent) (events : List FileTransferEvent) :
    attemptSnapshots (e :: events) = e.attemptSnapshot.toList ++ attemptSnapshots events := by
  cases e <;> rfl

@[simp] theorem attemptSnapshots_append (events events' : List FileTransferEvent) :
    attemptSnapshots (events ++ events') = attemptSnapshots events ++ attemptSnapshots events' :=
  List.filterMap_append _ _ _

@[simp] theorem drainedEvents_map_drained (events : List FileTransferEvent) :
    drainedEvents (events.map .drained) = events := by
  induction events <;> simp_all

@[simp] theorem recordedSnapshots_map_drained (events : List FileTransferEvent) :
    recordedSnapshots (events.map .drained) = [] := by
  induction events <;> simp_all

@[simp] theorem uploadReads_map_drained (events : List FileTransferEvent) :
    uploadReads (events.map .drained) = [] := by
  induction events <;> simp_all

@[simp] theorem drainedEvents_wrote (fileHash outputPath : String) (data : Option Bytes) :
    drainedEvents (data.map (Obs.wrote fileHash outputPath)).toList = [] := by
  cases data <;> rfl

@[simp] theorem recordedSnapshots_wrote (fileHash outputPath : String) (data : Option Bytes) :
    recordedSnapshots (data.map (Obs.wrote fileHash outputPath)).toList = [] := by
  cases data <;> rfl

@[simp] theorem uploadReads_wrote (fileHash outputPath : String) (data : Option Bytes) :
    uploadReads (data.map (Obs.wrote fileHash outputPath)).toList = [] := by
  cases data <;> rfl

theorem drainEvents_eq (max : Nat) (queue : List FileTransferEvent) :
    drainEvents max queue = (queue.take max, queue.drop max) := by
  induction max generalizing queue with
  | zero => rfl
  | succ max ih => cases queue <;> simp [drainEvents, ih]

theorem workStep_cases {s s' : FileTransferService} {io : WorkerIo} {o : List Obs}
    (h : workStep s io = some (s', o)) :
    (∃ cmd rest, s.worker = .recv ∧ s.cmdQueue = cmd :: rest ∧
      s' = { s with cmdQueue := rest, worker := .start cmd } ∧ o = []) ∨
    (s.worker = .recv ∧ s.cmdQueue = [] ∧ s.dropped = true ∧ s' = { s with worker := .stopped } ∧
      o = []) ∨
    (∃ filePath fileName fileData, s.worker = .upload filePath fileName ∧ io.read = .ok fileData ∧
      s' = { s with
        storedFiles := s.storedFiles.insert (calculateFileHash fileData) (fileName, fileData)
        worker := .send (.fileUploaded (calculateFileHash fileData) fileName) .recv } ∧
      o = [.read filePath (.ok fileData)]) ∨
    (∃ filePath fileName e, s.worker = .upload filePath fileName ∧ io.read = .error e ∧
      s' = { s with worker := .send (.error ("Upload failed: " ++ ("Failed to read file: " ++ e))) .recv } ∧
      o = [.read filePath (.error e)]) ∨
    (∃ fileHash outputPath attempt lastError, s.worker = .attempt fileHash outputPath attempt lastError ∧
      attempt < maxDownloadAttempts ∧
      let download := handleDownloadFile fileHash s.storedFiles io.write
      let outcome := attemptOutcome maxDownloadAttempts fileHash (attempt + 1)
        ⟨download.1, io.durationMs, io.timestamp⟩
      s' = { s with
          downloadMetrics := recordAttempt s.downloadMetrics outcome.1
          worker := .send (.downloadAttempt outcome.1)
            (afterAttempt fileHash outputPath (attempt + 1) outcome.2) } ∧
      o = (download.2.map (Obs.wrote fileHash outputPath)).toList ++ [.recorded outcome.1]) ∨
    (∃ fileHash outputPath attempt lastError, s.worker = .attempt fileHash outputPath attempt lastError ∧
      ¬attempt < maxDownloadAttempts ∧
      s' = { s with worker := downloadDone outputPath (.error (lastError.getD "Download failed")) } ∧
      o = []) ∨
    (∃ event next, s.worker = .send event next ∧ s.dropped = true ∧ s' = { s with worker := next } ∧
      o = []) ∨
    (∃ event next, s.worker = .send event next ∧ s.dropped = false ∧
      s.eventQueue.length < channelCapacity ∧
      s' = { s with eventQueue := s.eventQueue ++ [event], worker := next } ∧
      o = []) := by
  cases hw : s.worker with
  | recv =>
    rcases hq : s.cmdQueue with _ | ⟨cmd, rest⟩
    · cases hd : s.dropped <;> simp [workStep, hw, hq, hd] at h
      obtain ⟨rfl, rfl⟩ := h
      exact .inr (.inl ⟨rfl, rfl, rfl, rfl, rfl⟩)
    · simp [workStep, hw, hq] at h
      obtain ⟨rfl, rfl⟩ := h
      exact .inl ⟨cmd, rest, rfl, rfl, rfl, rfl⟩
  | upload filePath fileName =>
    rcases hr : io.read with e | fileData <;> simp [workStep, hw, hr, handleUploadFile] at h <;>
      obtain ⟨rfl, rfl⟩ := h
    · exact .inr (.inr (.inr (.inl ⟨filePath, fileName, e, rfl, rfl, rfl, rfl⟩)))
    · exact .inr (.inr (.inl ⟨filePath, fileName, fileData, rfl, rfl, rfl, rfl⟩))
  | attempt fileHash outputPath attempt lastError =>
    by_cases ha : attempt < maxDownloadAttempts <;>
      simp only [workStep, hw, ha, ↓reduceIte, Option.some.injEq, Prod.mk.injEq] at h <;>
      obtain ⟨rfl, rfl⟩ := h
    · exact .inr (.inr (.inr (.inr (.inl ⟨_, _, _, _, rfl, ha, rfl, rfl⟩))))
    · exact .inr (.inr (.inr (.inr (.inr (.inl ⟨_, _, _, _, rfl, ha, rfl, rfl⟩)))))
  | send event next =>
    cases hd : s.dropped
    · by_cases hl : s.eventQueue.length < channelCapacity <;>
        simp [workStep, hw, sendEvent, hd, hl] at h
      obtain ⟨rfl, rfl⟩ := h
      exact .inr (.inr (.inr (.inr (.inr (.inr (.inr ⟨event, next, rfl, rfl, hl, rfl, rfl⟩))))))
    · simp [workStep, hw, sendEvent, hd] at h
      obtain ⟨rfl, rfl⟩ := h
      exact .inr (.inr (.inr (.inr (.inr (.inr (.inl ⟨event, next, rfl, rfl, rfl, rfl⟩))))))
  | stopped => simp [workStep, hw] at h

theorem step_cases {s s' : FileTransferService} {a : Action} {o : List Obs}
    (h : step s a = some (s', o)) :
    (∃ cmd, a = .submit cmd ∧ s.dropped = false ∧ s.cmdQueue.length < channelCapacity ∧
      s' = { s with cmdQueue := s.cmdQueue ++ [cmd] } ∧ o = []) ∨
    (∃ max, a = .drainEvents max ∧ s.dropped = false ∧
      s' = { s with eventQueue := s.eventQueue.drop max } ∧
      o = (s.eventQueue.take max).map .drained) ∨
    (∃ fileHash fileName fileData, a = .storeFileData fileHash fileName fileData ∧
      s.dropped = false ∧
      s' = { s with storedFiles := s.storedFiles.insert fileHash (fileName, fileData) } ∧ o = []) ∨
    (a = .drop ∧ s.dropped = false ∧ s' = { s with dropped := true, eventQueue := [] } ∧ o = []) ∨
    (∃ io, a = .work io ∧ workStep s io = some (s', o)) := by
  cases a with
  | submit cmd =>
    cases hd : s.dropped <;> by_cases hl : s.cmdQueue.length < channelCapacity <;>
      simp [step, hd, hl] at h
    obtain ⟨rfl, rfl⟩ := h
    exact .inl ⟨cmd, rfl, rfl, hl, rfl, rfl⟩
  | drainEvents max =>
    cases hd : s.dropped <;> simp [step, hd, drainEvents_eq] at h
    obtain ⟨rfl, rfl⟩ := h
    exact .inr (.inl ⟨max, rfl, rfl, rfl, by simp⟩)
  | storeFileData fileHash fileName fileData =>
    cases hd : s.dropped <;> simp [step, hd, storeFileData] at h
    obtain ⟨rfl, rfl⟩ := h
    exact .inr (.inr (.inl ⟨_, _, _, rfl, rfl, rfl, rfl⟩))
  | drop =>
    cases hd : s.dropped <;> simp [step, hd] at h
    obtain ⟨rfl, rfl⟩ := h
    exact .inr (.inr (.inr (.inl ⟨rfl, rfl, rfl, rfl⟩)))
  | work io => exact .inr (.inr (.inr (.inr ⟨io, rfl, h⟩)))

theorem run_nil (s : FileTransferService) : run s [] = some (s, []) := rfl

@[simp] theorem thenStep_none (a : Action) : thenStep none a = none := rfl

@[simp] theorem thenStep_some (s : FileTransferService) (obs : List Obs) (a : Action) :
    thenStep (some (s, obs)) a = (step s a).map fun (s', o) => (s', obs ++ o) := rfl

theorem run_snoc (s : FileTransferService) (acts : List Action) (a : Action) :
    run s (acts ++ [a]) = thenStep (run s acts) a := by
  rw [run, List.foldl_append]
  rfl

theorem run_snoc_eq_some {s t : FileTransferService} {acts : List Action} {a : Action}
    {o : List Obs} :
    run s (acts ++ [a]) = some (t, o) ↔
      ∃ s' o₁ o₂, run s acts = some (s', o₁) ∧ step s' a = some (t, o₂) ∧ o = o₁ ++ o₂ := by
  rw [run_snoc]
  constructor
  · intro h
    rcases hr : run s acts with _ | ⟨s', o₁⟩ <;> rw [hr] at h
    · cases h
    · rcases hs : step s' a with _ | ⟨t', o₂⟩ <;>
        simp only [thenStep_some, hs, Option.map_none', Option.map_some'] at h
      · cases h
      · cases h
        exact ⟨s', o₁, o₂, rfl, hs, rfl⟩
  · rintro ⟨s', o₁, o₂, hr, hs, rfl⟩
    simp [hr, hs]

theorem run_append_of_eq_some {s t u : FileTransferService} {acts acts' : List Action}
    {o o' : List Obs} (h : run s acts = some (t, o)) (h' : run t acts' = some (u, o')) :
    run s (acts ++ acts') = some (u, o ++ o') := by
  induction acts' using List.reverseRecOn generalizing u o' with
  | nil =>
    cases h'
    simpa using h
  | append_singleton acts' a ih =>
    obtain ⟨u₀, o₁, o₂, hr, hs, rfl⟩ := run_snoc_eq_some.mp h'
    rw [← List.append_assoc, ← List.append_assoc]
    exact run_snoc_eq_some.mpr ⟨u₀, o ++ o₁, o₂, ih hr, hs, rfl⟩

theorem run_cons_of_eq_some {s s' t : FileTransferService} {a : Action} {acts : List Action}
    {o o' : List Obs} (h : step s a = some (s', o)) (h' : run s' acts = some (t, o')) :
    run s (a :: acts) = some (t, o ++ o') :=
  @run_append_of_eq_some s s' t [a] acts o o' (by simp [run, h]) h'

theorem run_invariant (P : List Action → FileTransferService → List Obs → Prop)
    {s₀ : FileTransferService} (init : P [] s₀ [])
    (preserve : ∀ acts s obs a s' o, P acts s obs → step s a = some (s', o) →
      P (acts ++ [a]) s' (obs ++ o))
    {acts : List Action} {s : FileTransferService} {obs : List Obs}
    (h : run s₀ acts = some (s, obs)) : P acts s obs := by
  induction acts using List.reverseRecOn generalizing s obs with
  | nil =>
    cases h
    exact init
  | append_singleton acts a ih =>
    obtain ⟨s', o₁, o₂, hr, hs, rfl⟩ := run_snoc_eq_some.mp h
    exact preserve _ _ _ _ _ _ (ih hr) hs

end ChiralNetwork.FileTransfer
