import ChiralNetwork.FileTransfer

/-!
The event stream of the transfer service. `Block` is what one command should
send, and `IsStream` strings blocks together in command order. The worker's
moves inside one command are `Next`; `Finish w rest` says that a worker at `w`
can still send `rest` on its way back to `recv`. Along every run from `new()`
the events produced so far are the blocks of the commands taken, the current
one cut where the worker stands (`Commands`); the consumer has drained a prefix
of them, and the rest is queued or held while the handle lives (`Delivery`).
-/

set_option autoImplicit false
set_option relaxedAutoImplicit false

namespace ChiralNetwork.EventStream

open ChiralNetwork.FileTransfer
open ChiralNetwork.Sha256 (calculateFileHash)
open ChiralNetwork.Metrics (DownloadAttemptSnapshot DownloadMetrics recordAttempt statusCount u64Max
  foldl_recordAttempt default_bounded)
open ChiralNetwork.Retry (AttemptIo attemptOutcome maxDownloadAttempts)

/-- A path with what its read returned. -/
abbrev Read := String × Except String Bytes

/-- The events of a download from attempt number `n` on: a retrying attempt
before the next one, then a success followed by `FileDownloaded`, or a failure
of the last allowed attempt followed by `Error`. -/
inductive AttemptsFrom (fileHash outputPath : String) : Nat → List FileTransferEvent → Prop
  | success (n durationMs timestamp : Nat) : n ≤ maxDownloadAttempts →
      AttemptsFrom fileHash outputPath n
        [.downloadAttempt ⟨fileHash, n, maxDownloadAttempts, .success, durationMs, timestamp⟩,
          .fileDownloaded outputPath]
  | failure (durationMs timestamp : Nat) (message : String) :
      AttemptsFrom fileHash outputPath maxDownloadAttempts
        [.downloadAttempt ⟨fileHash, maxDownloadAttempts, maxDownloadAttempts, .failed, durationMs,
          timestamp⟩, .error message]
  | retry (n durationMs timestamp : Nat) (rest : List FileTransferEvent) : n < maxDownloadAttempts →
      AttemptsFrom fileHash outputPath (n + 1) rest →
      AttemptsFrom fileHash outputPath n
        (.downloadAttempt ⟨fileHash, n, maxDownloadAttempts, .retrying, durationMs, timestamp⟩ :: rest)

/-- The events one command should send, against the reads made for it: an
upload reads its path once and sends `FileUploaded` with the hash of the bytes
read, or the `Error` of the failed read; a download sends attempts `1..k` and
their outcome; `GetStoredFiles` sends nothing. -/
inductive Block : FileTransferCommand → List Read → List FileTransferEvent → Prop
  | uploaded (filePath fileName : String) (fileData : Bytes) :
      Block (.uploadFile filePath fileName) [(filePath, .ok fileData)]
        [.fileUploaded (calculateFileHash fileData) fileName]
  | uploadFailed (filePath fileName e : String) :
      Block (.uploadFile filePath fileName) [(filePath, .error e)]
        [.error ("Upload failed: " ++ ("Failed to read file: " ++ e))]
  | downloaded (fileHash outputPath : String) (events : List FileTransferEvent) :
      AttemptsFrom fileHash outputPath 1 events →
      Block (.downloadFile fileHash outputPath) [] events
  | getStoredFiles : Block .getStoredFiles [] []

/-- One block per command, in command order, with the reads made for them. -/
inductive Blocks : List FileTransferCommand → List Read → List FileTransferEvent → Prop
  | nil : Blocks [] [] []
  | cons {cmd : FileTransferCommand} {cmds : List FileTransferCommand} {reads reads' : List Read}
      {events events' : List FileTransferEvent} :
      Block cmd reads events → Blocks cmds reads' events' →
      Blocks (cmd :: cmds) (reads ++ reads') (events ++ events')

/-- A stream of the commands `cmds` whose reads start with `reads`: each read
made so far is the one of its upload's block. -/
def IsStream (cmds : List FileTransferCommand) (reads : List Read) (stream : List FileTransferEvent) :
    Prop :=
  ∃ allReads, Blocks cmds allReads stream ∧ reads <+: allReads

theorem Blocks.append {cmds cmds' : List FileTransferCommand} {reads reads' : List Read}
    {events events' : List FileTransferEvent} (h : Blocks cmds reads events)
    (h' : Blocks cmds' reads' events') :
    Blocks (cmds ++ cmds') (reads ++ reads') (events ++ events') := by
  induction h with
  | nil => exact h'
  | cons hb _ ih => simpa using Blocks.cons hb ih

theorem Blocks.single {cmd : FileTransferCommand} {reads : List Read} {events : List FileTransferEvent}
    (h : Block cmd reads events) : Blocks [cmd] reads events := by
  simpa using Blocks.cons h .nil

theorem AttemptsFrom.no_fileNotFound {fileHash outputPath : String} {n : Nat}
    {events : List FileTransferEvent} (h : AttemptsFrom fileHash outputPath n events)
    (missing : String) : FileTransferEvent.fileNotFound missing ∉ events := by
  induction h with
  | success | failure => simp
  | retry _ _ _ _ _ _ ih => simpa using ih

theorem Block.no_fileNotFound {cmd : FileTransferCommand} {reads : List Read}
    {events : List FileTransferEvent} (h : Block cmd reads events) (missing : String) :
    FileTransferEvent.fileNotFound missing ∉ events := by
  cases h with
  | downloaded _ _ _ attempts => exact attempts.no_fileNotFound missing
  | uploaded | uploadFailed | getStoredFiles => simp

theorem Blocks.no_fileNotFound {cmds : List FileTransferCommand} {reads : List Read}
    {stream : List FileTransferEvent} (h : Blocks cmds reads stream) (missing : String) :
    FileTransferEvent.fileNotFound missing ∉ stream := by
  induction h with
  | nil => simp
  | cons hb _ ih => simpa [hb.no_fileNotFound missing] using ih

/-- The event a worker at a send holds. -/
def pendingOf : Worker → List FileTransferEvent
  | .send event _ => [event]
  | _ => []

/-- The moves of the worker inside one command, for every outcome of the file
system, with the reads they make: those `workStep` makes from every state but
`recv` and `stopped`. -/
inductive Next : Worker → List Read → Worker → Prop
  | uploaded (filePath fileName : String) (fileData : Bytes) :
      Next (.upload filePath fileName) [(filePath, .ok fileData)]
        (.send (.fileUploaded (calculateFileHash fileData) fileName) .recv)
  | uploadFailed (filePath fileName e : String) :
      Next (.upload filePath fileName) [(filePath, .error e)]
        (.send (.error ("Upload failed: " ++ ("Failed to read file: " ++ e))) .recv)
  | attempted (fileHash outputPath : String) (attempt : Nat) (lastError : Option String)
      (io : AttemptIo) : attempt < maxDownloadAttempts →
      Next (.attempt fileHash outputPath attempt lastError) []
        (.send (.downloadAttempt (attemptOutcome maxDownloadAttempts fileHash (attempt + 1) io).1)
          (afterAttempt fileHash outputPath (attempt + 1)
            (attemptOutcome maxDownloadAttempts fileHash (attempt + 1) io).2))
  | exhausted (fileHash outputPath : String) (attempt : Nat) (lastError : Option String) :
      ¬attempt < maxDownloadAttempts →
      Next (.attempt fileHash outputPath attempt lastError) []
        (downloadDone outputPath (.error (lastError.getD "Download failed")))
  | sent (event : FileTransferEvent) (next : Worker) : Next (.send event next) [] next

/-- The reads a worker at `w` makes and the events it sends after the one it
holds, on a way back to `recv`. -/
inductive Finish : Worker → List Read → List FileTransferEvent → Prop
  | recv : Finish .recv [] []
  | next {w w' : Worker} {reads reads' : List Read} {rest : List FileTransferEvent} :
      Next w reads w' → Finish w' reads' rest → Finish w (reads ++ reads') (pendingOf w' ++ rest)

/-- The worker states runs reach: a send goes back to `recv`, on to an attempt,
or to the reply of a download, which goes back to `recv`. -/
def Shaped : Worker → Prop
  | .send _ .recv | .send _ (.attempt ..) => True
  | .send _ (.send event next) => attemptSnapshots [event] = [] ∧ next = .recv
  | .send _ _ => False
  | _ => True

theorem Shaped.cont {event : FileTransferEvent} {cont : Worker} (hw : Shaped (.send event cont)) :
    Shaped cont := by
  rcases cont with _ | _ | _ | ⟨_, _ | _ | _ | _ | _⟩ | _ <;> simp_all [Shaped]

theorem Next.not_idle {w w' : Worker} {reads : List Read} (hn : Next w reads w') :
    w ≠ .recv ∧ w ≠ .stopped := by
  cases hn <;> simp

theorem Next.shaped {w w' : Worker} {reads : List Read} (hn : Next w reads w') (hw : Shaped w) :
    Shaped w' := by
  cases hn with
  | uploaded | uploadFailed | exhausted => simp [Shaped, downloadDone]
  | attempted fileHash outputPath attempt lastError io =>
    generalize (attemptOutcome maxDownloadAttempts fileHash (attempt + 1) io).2 = after
    rcases after with ((_ | ⟨⟩) | _) <;> simp [Shaped, afterAttempt, downloadDone]
  | sent => exact hw.cont

theorem Next.ne_stopped {w w' : Worker} {reads : List Read} (hn : Next w reads w') (hw : Shaped w) :
    w' ≠ .stopped := by
  cases hn with
  | uploaded | uploadFailed | attempted => simp
  | exhausted => simp [downloadDone]
  | sent event cont => rintro rfl; simp [Shaped] at hw

theorem Shaped.pending_next {event : FileTransferEvent} {cont : Worker}
    (hw : Shaped (.send event cont)) : attemptSnapshots (pendingOf cont) = [] := by
  rcases cont with _ | _ | _ | ⟨_, _ | _ | _ | _ | _⟩ | _ <;> simp_all [Shaped, pendingOf]

theorem Finish.recv_inv {reads : List Read} {rest : List FileTransferEvent}
    (h : Finish .recv reads rest) : reads = [] ∧ rest = [] := by
  cases h with
  | recv => exact ⟨rfl, rfl⟩
  | next hn _ => cases hn

theorem Finish.send_inv {event : FileTransferEvent} {cont : Worker} {reads : List Read}
    {rest : List FileTransferEvent} (h : Finish (.send event cont) reads rest) :
    ∃ rest', rest = pendingOf cont ++ rest' ∧ Finish cont reads rest' := by
  cases h with
  | next hn hf =>
    cases hn
    exact ⟨_, rfl, hf⟩

theorem Finish.reply_inv {event : FileTransferEvent} {reads : List Read}
    {rest : List FileTransferEvent} (h : Finish (.send event .recv) reads rest) :
    reads = [] ∧ rest = [] := by
  obtain ⟨rest', rfl, hf⟩ := h.send_inv
  simpa [pendingOf] using hf.recv_inv

theorem finish_upload {filePath fileName : String} {reads : List Read} {rest : List FileTransferEvent}
    (h : Finish (.upload filePath fileName) reads rest) :
    Block (.uploadFile filePath fileName) reads rest := by
  cases h with
  | next hn hf =>
    cases hn with
    | uploaded _ _ fileData =>
      obtain ⟨rfl, rfl⟩ := hf.reply_inv
      exact .uploaded _ _ fileData
    | uploadFailed _ _ e =>
      obtain ⟨rfl, rfl⟩ := hf.reply_inv
      exact .uploadFailed _ _ e

theorem finish_attempt {fileHash outputPath : String} {attempt : Nat} {lastError : Option String}
    {reads : List Read} {rest : List FileTransferEvent}
    (h : Finish (.attempt fileHash outputPath attempt lastError) reads rest)
    (ha : attempt < maxDownloadAttempts) :
    reads = [] ∧ AttemptsFrom fileHash outputPath (attempt + 1) rest := by
  cases h with
  | next hn hf =>
    cases hn with
    | exhausted _ _ _ _ hn => exact absurd ha hn
    | attempted _ _ _ _ io _ =>
      obtain ⟨rest', rfl, after⟩ := hf.send_inv
      rcases hres : io.result with e | ⟨⟩
      · by_cases last : attempt + 1 ≥ maxDownloadAttempts
        · simp only [attemptOutcome, hres, last, ↓reduceIte, afterAttempt, downloadDone] at after ⊢
          obtain ⟨rfl, rfl⟩ := after.reply_inv
          have final : attempt + 1 = maxDownloadAttempts := by omega
          rw [final]
          exact ⟨rfl, .failure _ _ _⟩
        · simp only [attemptOutcome, hres, last, ↓reduceIte, afterAttempt] at after ⊢
          obtain ⟨rfl, later⟩ := finish_attempt after (by omega)
          exact ⟨rfl, .retry _ _ _ _ (by omega) later⟩
      · simp only [attemptOutcome, hres, afterAttempt, downloadDone] at after ⊢
        obtain ⟨rfl, rfl⟩ := after.reply_inv
        exact ⟨rfl, .success _ _ _ (by omega)⟩
termination_by maxDownloadAttempts - attempt

theorem finish_start {cmd : FileTransferCommand} {reads : List Read} {rest : List FileTransferEvent}
    (h : Finish (Worker.start cmd) reads rest) : Block cmd reads rest := by
  cases cmd with
  | uploadFile => exact finish_upload h
  | downloadFile =>
    obtain ⟨rfl, attempts⟩ := finish_attempt h (by decide)
    exact .downloaded _ _ _ attempts
  | getStoredFiles =>
    obtain ⟨rfl, rfl⟩ := Finish.recv_inv h
    exact .getStoredFiles

theorem finish_attempt_exists (fileHash outputPath : String) (attempt : Nat)
    (lastError : Option String) :
    ∃ reads rest, Finish (.attempt fileHash outputPath attempt lastError) reads rest := by
  by_cases ha : attempt < maxDownloadAttempts
  · exact ⟨_, _, .next (.attempted _ _ _ _ ⟨.ok (), 0, 0⟩ ha) (.next (.sent _ _) (.next (.sent _ _) .recv))⟩
  · exact ⟨_, _, .next (.exhausted _ _ _ _ ha) (.next (.sent _ _) .recv)⟩

theorem Shaped.finish {w : Worker} (hw : Shaped w) (hs : w ≠ .stopped) :
    ∃ reads rest, Finish w reads rest := by
  rcases w with _ | _ | ⟨fileHash, outputPath, attempt, lastError⟩ | ⟨event, cont⟩ | _
  · exact ⟨[], [], .recv⟩
  · exact ⟨_, _, .next (.uploadFailed _ _ "") (.next (.sent _ _) .recv)⟩
  · exact finish_attempt_exists fileHash outputPath attempt lastError
  · rcases cont with _ | _ | ⟨fileHash, outputPath, attempt, lastError⟩ | ⟨_, cont⟩ | _
    · exact ⟨_, _, .next (.sent _ _) .recv⟩
    · simp [Shaped] at hw
    · obtain ⟨reads, rest, h⟩ := finish_attempt_exists fileHash outputPath attempt lastError
      exact ⟨_, _, .next (.sent _ _) h⟩
    · obtain ⟨-, rfl⟩ : _ ∧ cont = .recv := by simpa [Shaped] using hw
      exact ⟨_, _, .next (.sent _ _) (.next (.sent _ _) .recv)⟩
    · simp [Shaped] at hw
  · exact absurd rfl hs

theorem start_ne_stopped (cmd : FileTransferCommand) : Worker.start cmd ≠ .stopped := by
  cases cmd <;> simp [Worker.start]

theorem start_shaped (cmd : FileTransferCommand) : Shaped (Worker.start cmd) := by
  cases cmd <;> simp [Worker.start, Shaped]

theorem exists_blocks (cmds : List FileTransferCommand) : ∃ reads events, Blocks cmds reads events := by
  induction cmds with
  | nil => exact ⟨[], [], .nil⟩
  | cons cmd cmds ih =>
    obtain ⟨reads, rest, h⟩ := (start_shaped cmd).finish (start_ne_stopped cmd)
    obtain ⟨reads', events, hs⟩ := ih
    exact ⟨_, _, .cons (finish_start h) hs⟩

/-- The command in the worker's hands, if any, with the reads made for it and
the part of its block produced: whatever it may still read and send completes
them to a block. -/
def InFlight : Option FileTransferCommand → Worker → List Read → List FileTransferEvent → Prop
  | none, w, reads, part => (w = .recv ∨ w = .stopped) ∧ reads = [] ∧ part = []
  | some cmd, w, reads, part => w ≠ .recv ∧ w ≠ .stopped ∧
      ∀ reads' rest, Finish w reads' rest → Block cmd (reads ++ reads') (part ++ rest)

/-- The commands submitted so far, against the reads made and the events
produced for them: those done with their whole blocks, then the one in flight,
then those queued. -/
def Commands (acts : List Action) (s : FileTransferService) (reads : List Read)
    (produced : List FileTransferEvent) : Prop :=
  ∃ done doneReads blocks current partReads part,
    submittedCommands acts = done ++ current.toList ++ s.cmdQueue ∧
    Blocks done doneReads blocks ∧ InFlight current s.worker partReads part ∧
    reads = doneReads ++ partReads ∧ produced = blocks ++ part

/-- Where the produced events are: drained, then queued, then held by the
worker, until the handle is dropped and the rest is lost; their snapshots are
those recorded. -/
structure Delivery (s : FileTransferService) (obs : List Obs) (produced : List FileTransferEvent) :
    Prop where
  recorded : recordedSnapshots obs = attemptSnapshots produced
  delivered : s.dropped = false →
    drainedEvents obs ++ s.eventQueue ++ pendingOf s.worker = produced
  drainedPrefix : drainedEvents obs <+: produced

/-- What every run from `new()` keeps. -/
structure StreamInv (acts : List Action) (s : FileTransferService) (obs : List Obs) : Prop where
  shaped : Shaped s.worker
  metrics : s.downloadMetrics = (recordedSnapshots obs).foldl recordAttempt DownloadMetrics.default
  produced : ∃ produced, Commands acts s (uploadReads obs) produced ∧ Delivery s obs produced

theorem streamInv_new : StreamInv [] FileTransferService.new [] :=
  ⟨trivial, rfl, [], ⟨[], [], [], none, [], [], rfl, .nil, ⟨.inl rfl, rfl, rfl⟩, rfl, rfl⟩,
    ⟨rfl, fun _ => rfl, List.prefix_refl _⟩⟩

section Steps

variable {acts : List Action} {s s' : FileTransferService} {obs o : List Obs} {reads : List Read}
  {produced : List FileTransferEvent}

private theorem commands_obs (hc : Commands acts s (uploadReads obs) produced)
    (ho : uploadReads o = []) : Commands acts s (uploadReads (obs ++ o)) produced := by
  rwa [uploadReads_append, ho, List.append_nil]

private theorem commands_frame (hc : Commands acts s reads produced) (cmds : s'.cmdQueue = s.cmdQueue)
    (worker : s'.worker = s.worker) (a : Action) (ha : a.submitted = none) :
    Commands (acts ++ [a]) s' reads produced := by
  obtain ⟨done, doneReads, blocks, current, partReads, part, hsub, hdone, hfl, rfl, rfl⟩ := hc
  refine ⟨done, doneReads, blocks, current, partReads, part, ?_, hdone, worker ▸ hfl, rfl, rfl⟩
  rw [submittedCommands_append, submittedCommands_cons, ha, hsub, cmds]
  simp

private theorem commands_submit (hc : Commands acts s reads produced) (cmd : FileTransferCommand) :
    Commands (acts ++ [.submit cmd]) { s with cmdQueue := s.cmdQueue ++ [cmd] } reads produced := by
  obtain ⟨done, doneReads, blocks, current, partReads, part, hsub, hdone, hfl, rfl, rfl⟩ := hc
  exact ⟨done, doneReads, blocks, current, partReads, part, by simp [hsub], hdone, hfl, rfl, rfl⟩

private theorem commands_start (hc : Commands acts s reads produced) (hw : s.worker = .recv)
    {cmd : FileTransferCommand} {rest : List FileTransferCommand} (hq : s.cmdQueue = cmd :: rest)
    (io : WorkerIo) :
    Commands (acts ++ [.work io]) { s with cmdQueue := rest, worker := .start cmd } reads produced := by
  obtain ⟨done, doneReads, blocks, current, partReads, part, hsub, hdone, hfl, rfl, rfl⟩ := hc
  rcases current with _ | current
  · obtain ⟨-, rfl, rfl⟩ := hfl
    by_cases hg : cmd = .getStoredFiles
    · subst hg
      exact ⟨done ++ [.getStoredFiles], doneReads, blocks, none, [], [], by simp [hsub, hq],
        by simpa using hdone.append (.single .getStoredFiles), ⟨.inl rfl, rfl, rfl⟩, rfl, rfl⟩
    · have started : Worker.start cmd ≠ .recv := by cases cmd <;> simp_all [Worker.start]
      exact ⟨done, doneReads, blocks, some cmd, [], [], by simp [hsub, hq], hdone,
        ⟨started, start_ne_stopped cmd, fun _ _ h => finish_start h⟩, rfl, rfl⟩
  · exact absurd hw hfl.1

private theorem commands_stop (hc : Commands acts s reads produced) (hw : s.worker = .recv)
    (io : WorkerIo) :
    Commands (acts ++ [.work io]) { s with worker := .stopped } reads produced := by
  obtain ⟨done, doneReads, blocks, current, partReads, part, hsub, hdone, hfl, rfl, rfl⟩ := hc
  rcases current with _ | current
  · exact ⟨done, doneReads, blocks, none, partReads, part, by simpa using hsub, hdone,
      ⟨.inr rfl, hfl.2⟩, rfl, rfl⟩
  · exact absurd hw hfl.1

private theorem commands_next (hc : Commands acts s reads produced) {r : List Read}
    (hn : Next s.worker r s'.worker) (hs' : s'.worker ≠ .stopped) (cmds : s'.cmdQueue = s.cmdQueue)
    (io : WorkerIo) :
    Commands (acts ++ [.work io]) s' (reads ++ r) (produced ++ pendingOf s'.worker) := by
  obtain ⟨done, doneReads, blocks, current, partReads, part, hsub, hdone, hfl, rfl, rfl⟩ := hc
  have hsub' : submittedCommands (acts ++ [.work io]) = done ++ current.toList ++ s'.cmdQueue := by
    simp [hsub, cmds]
  rcases current with _ | cmd
  · exact absurd hfl.1 (by simpa using hn.not_idle)
  · have extend : ∀ reads' rest, Finish s'.worker reads' rest →
        Block cmd (partReads ++ r ++ reads') (part ++ pendingOf s'.worker ++ rest) :=
      fun reads' rest hf => by simpa using hfl.2.2 _ _ (.next hn hf)
    by_cases back : s'.worker = .recv
    · have whole : Block cmd (partReads ++ r) (part ++ pendingOf s'.worker) := by
        simpa using extend [] [] (back ▸ .recv)
      exact ⟨done ++ [cmd], doneReads ++ (partReads ++ r), blocks ++ (part ++ pendingOf s'.worker),
        none, [], [], by simpa using hsub', hdone.append (.single whole), ⟨.inl back, rfl, rfl⟩,
        by simp, by simp⟩
    · exact ⟨done, doneReads, blocks, some cmd, partReads ++ r, part ++ pendingOf s'.worker, hsub',
        hdone, ⟨back, hs', extend⟩, by simp, by simp⟩

private theorem delivery_frame (hd : Delivery s obs produced) (dropped : s'.dropped = s.dropped)
    (queue : s'.eventQueue = s.eventQueue) (held : pendingOf s'.worker = pendingOf s.worker) :
    Delivery s' (obs ++ []) produced := by
  obtain ⟨hrec, hdel, hpre⟩ := hd
  exact ⟨by simpa using hrec, fun h => by simpa [queue, held] using hdel (dropped ▸ h),
    by simpa using hpre⟩

private theorem delivery_drain (hd : Delivery s obs produced) (hdrop : s.dropped = false)
    (max : Nat) :
    Delivery { s with eventQueue := s.eventQueue.drop max }
      (obs ++ (s.eventQueue.take max).map .drained) produced := by
  obtain ⟨hrec, hdel, hpre⟩ := hd
  have moved : drainedEvents obs ++ s.eventQueue.take max ++
      (s.eventQueue.drop max ++ pendingOf s.worker) = produced := by
    rw [List.append_assoc, ← List.append_assoc (s.eventQueue.take max), List.take_append_drop,
      ← List.append_assoc]
    exact hdel hdrop
  refine ⟨?_, fun _ => ?_, ?_⟩
  · show recordedSnapshots (obs ++ _) = _
    rw [recordedSnapshots_append, recordedSnapshots_map_drained, List.append_nil, hrec]
  · show drainedEvents (obs ++ _) ++ s.eventQueue.drop max ++ pendingOf s.worker = produced
    rw [drainedEvents_append, drainedEvents_map_drained, List.append_assoc (_ ++ _)]
    exact moved
  · show drainedEvents (obs ++ _) <+: produced
    rw [drainedEvents_append, drainedEvents_map_drained, ← moved]
    exact List.prefix_append _ _

private theorem delivery_drop (hd : Delivery s obs produced) :
    Delivery { s with dropped := true, eventQueue := [] } (obs ++ []) produced :=
  ⟨by simpa using hd.recorded, (fun h => by cases h), by simpa using hd.drainedPrefix⟩

private theorem delivery_next (hd : Delivery s obs produced) (dropped : s'.dropped = s.dropped)
    (recorded : recordedSnapshots o = attemptSnapshots (pendingOf s'.worker))
    (drained : drainedEvents o = [])
    (queued : s.dropped = false → s'.eventQueue = s.eventQueue ++ pendingOf s.worker) :
    Delivery s' (obs ++ o) (produced ++ pendingOf s'.worker) := by
  obtain ⟨hrec, hdel, hpre⟩ := hd
  refine ⟨by simp [hrec, recorded], fun h => ?_, ?_⟩
  · rw [drainedEvents_append, drained, List.append_nil, queued (dropped ▸ h),
      ← hdel (dropped ▸ h)]
    simp
  · rw [drainedEvents_append, drained, List.append_nil]
    exact hpre.trans (List.prefix_append _ _)

private theorem streamInv_next (hi : StreamInv acts s obs) (io : WorkerIo) {r : List Read}
    (reads : uploadReads o = r) (hn : Next s.worker r s'.worker) (cmds : s'.cmdQueue = s.cmdQueue)
    (dropped : s'.dropped = s.dropped)
    (recorded : recordedSnapshots o = attemptSnapshots (pendingOf s'.worker))
    (drained : drainedEvents o = [])
    (queued : s.dropped = false → s'.eventQueue = s.eventQueue ++ pendingOf s.worker)
    (metrics : s'.downloadMetrics = (recordedSnapshots o).foldl recordAttempt s.downloadMetrics) :
    StreamInv (acts ++ [.work io]) s' (obs ++ o) := by
  obtain ⟨shaped, hm, produced, hc, hd⟩ := hi
  refine ⟨hn.shaped shaped, by rw [metrics, hm, recordedSnapshots_append, List.foldl_append],
    produced ++ pendingOf s'.worker, ?_, delivery_next hd dropped recorded drained queued⟩
  rw [uploadReads_append, reads]
  exact commands_next hc hn (hn.ne_stopped shaped) cmds io

private theorem streamInv_work (hi : StreamInv acts s obs) {io : WorkerIo}
    (h : workStep s io = some (s', o)) : StreamInv (acts ++ [.work io]) s' (obs ++ o) := by
  rcases workStep_cases h with ⟨cmd, rest, hw, hq, rfl, rfl⟩ | ⟨hw, -, -, rfl, rfl⟩ |
      ⟨filePath, fileName, fileData, hw, -, rfl, rfl⟩ | ⟨filePath, fileName, e, hw, -, rfl, rfl⟩ |
      ⟨fileHash, outputPath, attempt, lastError, hw, ha, rfl, rfl⟩ |
      ⟨fileHash, outputPath, attempt, lastError, hw, ha, rfl, rfl⟩ |
      ⟨event, cont, hw, hdrop, rfl, rfl⟩ | ⟨event, cont, hw, hdrop, -, rfl, rfl⟩
  · obtain ⟨-, hm, produced, hc, hd⟩ := hi
    exact ⟨start_shaped cmd, by simpa using hm, produced, commands_obs (commands_start hc hw hq io) rfl,
      delivery_frame hd rfl rfl (by cases cmd <;> simp [hw, pendingOf, Worker.start])⟩
  · obtain ⟨-, hm, produced, hc, hd⟩ := hi
    exact ⟨trivial, by simpa using hm, produced, commands_obs (commands_stop hc hw io) rfl,
      delivery_frame hd rfl rfl (by simp [hw, pendingOf])⟩
  · exact streamInv_next hi io rfl (hw ▸ .uploaded _ _ fileData) rfl rfl
      (by simp [pendingOf]) (by simp) (fun _ => by simp [hw, pendingOf]) (by simp)
  · exact streamInv_next hi io rfl (hw ▸ .uploadFailed _ _ e) rfl rfl
      (by simp [pendingOf]) (by simp) (fun _ => by simp [hw, pendingOf]) (by simp)
  · exact streamInv_next hi io (r := []) (by simp) (hw ▸ .attempted _ _ _ _ _ ha) rfl rfl
      (by simp [pendingOf]) (by simp) (fun _ => by simp [hw, pendingOf]) (by simp)
  · exact streamInv_next hi io rfl (hw ▸ .exhausted _ _ _ _ ha) rfl rfl
      (by simp [downloadDone, pendingOf]) (by simp) (fun _ => by simp [hw, pendingOf]) (by simp)
  · exact streamInv_next hi io rfl (hw ▸ .sent _ _) rfl rfl
      (by simpa using (hw ▸ hi.shaped : Shaped (.send event cont)).pending_next) (by simp)
      (fun h => by simp [hdrop] at h) (by simp)
  · exact streamInv_next hi io rfl (hw ▸ .sent _ _) rfl rfl
      (by simpa using (hw ▸ hi.shaped : Shaped (.send event cont)).pending_next) (by simp)
      (fun _ => by simp [hw, pendingOf]) (by simp)

theorem streamInv_step (hi : StreamInv acts s obs) {a : Action} (h : step s a = some (s', o)) :
    StreamInv (acts ++ [a]) s' (obs ++ o) := by
  rcases step_cases h with ⟨cmd, rfl, -, -, rfl, rfl⟩ | ⟨max, rfl, hdrop, rfl, rfl⟩ |
      ⟨_, _, _, rfl, -, rfl, rfl⟩ | ⟨rfl, -, rfl, rfl⟩ | ⟨io, rfl, hw⟩
  · obtain ⟨shaped, hm, produced, hc, hd⟩ := hi
    exact ⟨shaped, by simpa using hm, produced, commands_obs (commands_submit hc cmd) rfl,
      delivery_frame hd rfl rfl rfl⟩
  · obtain ⟨shaped, hm, produced, hc, hd⟩ := hi
    refine ⟨shaped, ?_, produced, commands_obs (commands_frame hc rfl rfl _ rfl) (uploadReads_map_drained _),
      delivery_drain hd hdrop max⟩
    rw [recordedSnapshots_append, recordedSnapshots_map_drained, List.append_nil]
    exact hm
  · obtain ⟨shaped, hm, produced, hc, hd⟩ := hi
    exact ⟨shaped, by simpa using hm, produced, commands_obs (commands_frame hc rfl rfl _ rfl) rfl,
      delivery_frame hd rfl rfl rfl⟩
  · obtain ⟨shaped, hm, produced, hc, hd⟩ := hi
    exact ⟨shaped, by simpa using hm, produced, commands_obs (commands_frame hc rfl rfl _ rfl) rfl,
      delivery_drop hd⟩
  · exact streamInv_work hi hw

end Steps

theorem streamInv_run {acts : List Action} {s : FileTransferService} {obs : List Obs}
    (h : run FileTransferService.new acts = some (s, obs)) : StreamInv acts s obs :=
  run_invariant StreamInv streamInv_new (fun _ _ _ _ _ _ hi hs => streamInv_step hi hs) h

private theorem inFlight_completes {current : Option FileTransferCommand} {w : Worker}
    {reads : List Read} {part : List FileTransferEvent} (hfl : InFlight current w reads part)
    (hw : Shaped w) :
    ∃ curReads cur, Blocks current.toList curReads cur ∧ reads <+: curReads ∧ part <+: cur := by
  rcases current with _ | cmd
  · obtain ⟨-, rfl, rfl⟩ := hfl
    exact ⟨[], [], .nil, List.prefix_refl _, List.prefix_refl _⟩
  · obtain ⟨reads', rest, hf⟩ := hw.finish hfl.2.1
    exact ⟨_, _, .single (hfl.2.2 reads' rest hf), List.prefix_append _ _, List.prefix_append _ _⟩

/-- For every run from `new()` — any commands, any outcomes of the file system,
any interleaving of the consumer's drains, stores and drop with the worker —
the drained events are a prefix of the events produced, which are a prefix of a
stream of one block per submitted command in arrival order, each upload's block
made from what its read returned; the recorded snapshots are those of the
produced events, in order, and the metrics are their fold; no block holds
`FileNotFound`. -/
theorem drained_events_prefix_of_stream {acts : List Action} {s : FileTransferService}
    {obs : List Obs} (h : run FileTransferService.new acts = some (s, obs)) :
    ∃ stream produced, IsStream (submittedCommands acts) (uploadReads obs) stream ∧
      produced <+: stream ∧ drainedEvents obs <+: produced ∧
      recordedSnapshots obs = attemptSnapshots produced ∧
      s.downloadMetrics = (recordedSnapshots obs).foldl recordAttempt DownloadMetrics.default ∧
      ∀ missing, FileTransferEvent.fileNotFound missing ∉ stream := by
  obtain ⟨shaped, hm, produced, ⟨done, doneReads, blocks, current, partReads, part, hsub, hdone,
    hfl, hreads, rfl⟩, hd⟩ := streamInv_run h
  obtain ⟨curReads, cur, hcur, hpartReads, hpart⟩ := inFlight_completes hfl shaped
  obtain ⟨laterReads, later, hlater⟩ := exists_blocks s.cmdQueue
  have all := (hdone.append hcur).append hlater
  rw [← hsub] at all
  refine ⟨_, _, ⟨_, all, ?_⟩, ?_, hd.drainedPrefix, hd.recorded, hm, all.no_fileNotFound⟩
  · rw [hreads, List.append_assoc]
    exact (List.prefix_append_right_inj _).mpr (hpartReads.trans (List.prefix_append _ _))
  · rw [List.append_assoc]
    exact (List.prefix_append_right_inj _).mpr (hpart.trans (List.prefix_append _ _))

/-- A failed upload, then a drain: the consumer gets the upload's one `Error`. -/
theorem failed_upload_drained :
    ∃ stream produced, IsStream [.uploadFile "missing" "missing.txt"] [("missing", .error "missing")]
        stream ∧ produced <+: stream ∧
      [FileTransferEvent.error ("Upload failed: " ++ ("Failed to read file: " ++ "missing"))] <+:
        produced ∧ [] = attemptSnapshots produced ∧
      FileTransferService.new.downloadMetrics = DownloadMetrics.default ∧
      ∀ missing, FileTransferEvent.fileNotFound missing ∉ stream :=
  @drained_events_prefix_of_stream
    [.submit (.uploadFile "missing" "missing.txt"), .work ⟨.error "missing", .ok (), 0, 0⟩,
      .work ⟨.error "missing", .ok (), 0, 0⟩, .work ⟨.error "missing", .ok (), 0, 0⟩, .drainEvents 10]
    FileTransferService.new
    [.read "missing" (.error "missing"),
      .drained (.error ("Upload failed: " ++ ("Failed to read file: " ++ "missing")))] rfl

/-- In every state a run from `new()` reaches, `download_metrics_snapshot()`
counts each status among all the attempts recorded so far, saturated at
`u64::MAX`, and lists the 20 most recent, newest first. -/
theorem service_metrics_snapshot {acts : List Action} {s : FileTransferService} {obs : List Obs}
    (h : run FileTransferService.new acts = some (s, obs)) :
    downloadMetricsSnapshot s =
      ⟨min (statusCount .success (recordedSnapshots obs)) u64Max,
        min (statusCount .failed (recordedSnapshots obs)) u64Max,
        min (statusCount .retrying (recordedSnapshots obs)) u64Max,
        (recordedSnapshots obs).reverse.take 20⟩ := by
  have fold := foldl_recordAttempt default_bounded (recordedSnapshots obs)
  simp only [DownloadMetrics.default, Nat.zero_add, List.append_nil] at fold
  rw [downloadMetricsSnapshot, (streamInv_run h).metrics, DownloadMetrics.default, fold]
  rfl

/-- A download of a missing file records its three failed attempts: two
retrying, then the failed last one. -/
theorem missing_download_metrics :
    ∃ s obs, run FileTransferService.new
        (.submit (.downloadFile "missing-hash" "out.txt") ::
          List.replicate 8 (.work ⟨.ok [], .ok (), 0, 0⟩)) = some (s, obs) ∧
      recordedSnapshots obs =
        [⟨"missing-hash", 1, 3, .retrying, 0, 0⟩, ⟨"missing-hash", 2, 3, .retrying, 0, 0⟩,
          ⟨"missing-hash", 3, 3, .failed, 0, 0⟩] ∧
      downloadMetricsSnapshot s =
        ⟨min (statusCount .success (recordedSnapshots obs)) u64Max,
          min (statusCount .failed (recordedSnapshots obs)) u64Max,
          min (statusCount .retrying (recordedSnapshots obs)) u64Max,
          (recordedSnapshots obs).reverse.take 20⟩ :=
  ⟨_, _, rfl, rfl, @service_metrics_snapshot
    (.submit (.downloadFile "missing-hash" "out.txt") :: List.replicate 8 (.work ⟨.ok [], .ok (), 0, 0⟩))
    _ _ rfl⟩

open ChiralNetwork.Retry (downloadWithRetries downloadLoop_spec expectedAttempt expectedSnapshot
  Effect)

private theorem emitted_expectedAttempt (fileHash : String) (io : Nat → AttemptIo) (k n : Nat) :
    (expectedAttempt maxDownloadAttempts fileHash io k n).filterMap Effect.emitted =
      [expectedSnapshot maxDownloadAttempts fileHash io k n] := by
  by_cases hn : 2 ≤ n <;> simp [expectedAttempt, hn, Effect.emitted]

private theorem attemptsFrom_expected (fileHash outputPath : String) (io : Nat → AttemptIo)
    {k : Nat} (hk : k ≤ maxDownloadAttempts)
    (early : ∀ n, 1 ≤ n → n < k → (io n).result.toBool = false)
    (final : (io k).result.toBool = true ∨ k = maxDownloadAttempts) :
    ∀ c n, 1 ≤ n → n + c = k → AttemptsFrom fileHash outputPath n
      ((List.range' n (c + 1)).map (FileTransferEvent.downloadAttempt ∘
          expectedSnapshot maxDownloadAttempts fileHash io k) ++
        pendingOf (downloadDone outputPath (io k).result)) := by
  intro c
  induction c with
  | zero =>
    rintro n - rfl
    rcases hr : (io n).result with e | ⟨⟩
    · have last : n = maxDownloadAttempts := final.resolve_left (by simp [hr, Except.toBool])
      subst last
      simpa [expectedSnapshot, hr, Except.toBool, downloadDone, pendingOf] using
        AttemptsFrom.failure (io maxDownloadAttempts).durationMs
          (io maxDownloadAttempts).timestamp ("Download failed: " ++ e)
    · simpa [expectedSnapshot, hr, Except.toBool, downloadDone, pendingOf] using
        AttemptsFrom.success n (io n).durationMs (io n).timestamp hk
  | succ c ih =>
    rintro n lo rfl
    rw [List.range'_succ, List.map_cons, List.cons_append]
    have retried : expectedSnapshot maxDownloadAttempts fileHash io (n + (c + 1)) n =
        ⟨fileHash, n, maxDownloadAttempts, .retrying, (io n).durationMs, (io n).timestamp⟩ := by
      simp [expectedSnapshot]
    rw [Function.comp_apply, retried]
    exact .retry _ _ _ _ (by omega) (ih (n + 1) (by omega) (by omega))

/-- For every sequence of attempt outcomes, the snapshots `download_with_retries`
emits, followed by the reply the worker sends for its result, are a download
block of the stream: the loop model of the retries refines what the worker is
held to. -/
theorem downloadWithRetries_block (fileHash outputPath : String) (io : Nat → AttemptIo)
    (m : DownloadMetrics) :
    Block (.downloadFile fileHash outputPath) []
      ((downloadWithRetries maxDownloadAttempts fileHash io m).emittedSnapshots.map
          .downloadAttempt ++
        pendingOf (downloadDone outputPath (downloadWithRetries maxDownloadAttempts fileHash io m).result)) := by
  obtain ⟨k, lo, hi, early, final, run⟩ :=
    downloadLoop_spec maxDownloadAttempts fileHash io 0 none m (by decide)
  simp only [Nat.zero_add, Nat.sub_zero] at run
  refine .downloaded _ _ _ ?_
  rw [downloadWithRetries, run, Retry.DownloadRun.emittedSnapshots, List.filterMap_flatMap]
  simp only [emitted_expectedAttempt, ← List.map_eq_flatMap, List.map_map]
  have := attemptsFrom_expected fileHash outputPath io hi (fun n lo' => early n (by omega)) final
    (k - 1) 1 le_rfl (by omega)
  rwa [Nat.sub_add_cancel lo] at this

end ChiralNetwork.EventStream
