import ChiralNetwork.FileTransfer

/-!
Backpressure in the transfer service. Both channels are bounded, and every send
of the worker (in `emit_attempt`, and after each upload and download) is a
tokio `send().await`: it completes at once while the event channel has room,
fails at once once the handle and with it the receiver is gone, and otherwise
waits for the consumer. So the worker waits on the consumer exactly while 100
events are undrained, and a consumer that never drains stops it at its 101st
event, with every later command behind it.
-/

set_option autoImplicit false
set_option relaxedAutoImplicit false

namespace ChiralNetwork.Backpressure

open ChiralNetwork.Map (HashMap)
open ChiralNetwork.FileTransfer
open ChiralNetwork.Metrics (DownloadMetrics)
open ChiralNetwork.Retry (maxDownloadAttempts)

theorem workStep_eq_none_iff (s : FileTransferService) (io : WorkerIo) :
    workStep s io = none ↔
      (s.worker = .recv ∧ s.cmdQueue = [] ∧ s.dropped = false) ∨
      (∃ event cont, s.worker = .send event cont ∧ s.dropped = false ∧
        channelCapacity ≤ s.eventQueue.length) ∨
      s.worker = .stopped := by
  rcases hw : s.worker with _ | ⟨_, fileName⟩ | ⟨_, _, attempt, _⟩ | ⟨event, cont⟩ | _
  · rcases hq : s.cmdQueue with _ | ⟨cmd, rest⟩ <;> cases hd : s.dropped <;>
      simp [workStep, hw, hq, hd]
  · rcases hr : handleUploadFile fileName s.storedFiles io.read with _ | ⟨_, _⟩ <;>
      simp [workStep, hw, hr]
  · by_cases ha : attempt < maxDownloadAttempts <;> simp [workStep, hw, ha]
  · cases hd : s.dropped <;> by_cases hl : s.eventQueue.length < channelCapacity <;>
      simp [workStep, hw, sendEvent, hd, hl]
    omega
  · simp [workStep, hw]

/-- Both channels hold at most their capacity. -/
def Bounded (s : FileTransferService) : Prop :=
  s.cmdQueue.length ≤ channelCapacity ∧ s.eventQueue.length ≤ channelCapacity

theorem bounded_step {s s' : FileTransferService} {a : Action} {o : List Obs} (hb : Bounded s)
    (h : step s a = some (s', o)) : Bounded s' := by
  obtain ⟨hc, he⟩ := hb
  rcases step_cases h with ⟨_, _, _, room, rfl, _⟩ | ⟨_, _, _, rfl, _⟩ | ⟨_, _, _, _, _, rfl, _⟩ |
      ⟨_, _, rfl, _⟩ | ⟨_, _, hw⟩
  · exact ⟨by simpa using room, he⟩
  · exact ⟨hc, by simp; omega⟩
  · exact ⟨hc, he⟩
  · exact ⟨hc, by simp⟩
  · rcases workStep_cases hw with ⟨_, _, _, hq, rfl, _⟩ | ⟨_, _, _, rfl, _⟩ |
        ⟨_, _, _, _, _, rfl, _⟩ | ⟨_, _, _, _, _, rfl, _⟩ | ⟨_, _, _, _, _, _, rfl, _⟩ |
        ⟨_, _, _, _, _, _, rfl, _⟩ | ⟨_, _, _, _, rfl, _⟩ | ⟨_, _, _, _, room, rfl, _⟩
    · exact ⟨by simp [hq] at hc ⊢; omega, he⟩
    · exact ⟨hc, he⟩
    · exact ⟨hc, he⟩
    · exact ⟨hc, he⟩
    · exact ⟨hc, he⟩
    · exact ⟨hc, he⟩
    · exact ⟨hc, he⟩
    · exact ⟨hc, by simpa using room⟩

theorem workStep_send_of_room {s : FileTransferService} {event : FileTransferEvent} {cont : Worker}
    (hw : s.worker = .send event cont) (room : s.eventQueue.length < channelCapacity)
    (io : WorkerIo) : ∃ s' o, workStep s io = some (s', o) := by
  cases hd : s.dropped <;> simp [workStep, hw, sendEvent, hd, room]

theorem run_bounded {acts : List Action} {s : FileTransferService} {obs : List Obs}
    (h : run FileTransferService.new acts = some (s, obs)) : Bounded s :=
  run_invariant (fun _ s _ => Bounded s) (by simp [Bounded, FileTransferService.new])
    (fun _ _ _ _ _ _ hb hs => bounded_step hb hs) h

/-- In every state a run from `new()` reaches, both channels hold at most 100
entries; the worker cannot step only while it waits for a command, while it
holds an event and 100 undrained events fill the channel of a live handle, or
once it has stopped; and from such a full channel any drain of at least one
event lets the held event through. -/
theorem worker_waits_only_on_full_channel {acts : List Action} {s : FileTransferService}
    {obs : List Obs} (h : run FileTransferService.new acts = some (s, obs)) (io : WorkerIo) :
    s.cmdQueue.length ≤ channelCapacity ∧ s.eventQueue.length ≤ channelCapacity ∧
    (workStep s io = none ↔
      (s.worker = .recv ∧ s.cmdQueue = [] ∧ s.dropped = false) ∨
      (∃ event cont, s.worker = .send event cont ∧ s.dropped = false ∧
        s.eventQueue.length = channelCapacity) ∨
      s.worker = .stopped) ∧
    ∀ event cont, s.worker = .send event cont → ∀ max, 0 < max →
      ∀ s' o, step s (.drainEvents max) = some (s', o) → ∃ t o', workStep s' io = some (t, o') := by
  obtain ⟨hc, he⟩ := run_bounded h
  have full : channelCapacity ≤ s.eventQueue.length ↔ s.eventQueue.length = channelCapacity :=
    ⟨Nat.le_antisymm he, Eq.ge⟩
  refine ⟨hc, he, by rw [workStep_eq_none_iff, full], fun event cont hw max pos s' o hs => ?_⟩
  rcases step_cases hs with ⟨_, ⟨⟩, _⟩ | ⟨_, ⟨⟩, -, rfl, -⟩ | ⟨_, _, _, ⟨⟩, _⟩ | ⟨⟨⟩, _⟩ |
      ⟨_, ⟨⟩, _⟩
  refine workStep_send_of_room (s := { s with eventQueue := s.eventQueue.drop max }) hw ?_ io
  simp only [List.length_drop, channelCapacity] at he ⊢
  omega

/-- An upload whose read fails, from the worker's `recv` back to `recv`: the
command, its receipt, the failed read, and the send of its `Error`. -/
def failedUpload (filePath fileName error : String) : List Action :=
  [.submit (.uploadFile filePath fileName), .work ⟨.error error, .ok (), 0, 0⟩,
    .work ⟨.error error, .ok (), 0, 0⟩, .work ⟨.error error, .ok (), 0, 0⟩]

/-- The `Error` such an upload sends. -/
def uploadError (error : String) : FileTransferEvent :=
  .error ("Upload failed: " ++ ("Failed to read file: " ++ error))

theorem run_failedUpload_until_send (queue : List FileTransferEvent)
    (filePath fileName error : String) :
    run { FileTransferService.new with eventQueue := queue }
        ((failedUpload filePath fileName error).take 3) =
      some ({ FileTransferService.new with
        eventQueue := queue, worker := .send (uploadError error) .recv }, [.read filePath (.error error)]) := by
  simp [run, failedUpload, step, workStep, handleUploadFile, Worker.start, uploadError,
    FileTransferService.new, channelCapacity]

theorem run_failedUpload (queue : List FileTransferEvent) (room : queue.length < channelCapacity)
    (filePath fileName error : String) :
    run { FileTransferService.new with eventQueue := queue } (failedUpload filePath fileName error) =
      some ({ FileTransferService.new with eventQueue := queue ++ [uploadError error] },
        [.read filePath (.error error)]) := by
  have split : failedUpload filePath fileName error =
      (failedUpload filePath fileName error).take 3 ++ [.work ⟨.error error, .ok (), 0, 0⟩] := rfl
  rw [split]
  refine run_append_of_eq_some (run_failedUpload_until_send queue filePath fileName error) ?_
  simp [run, step, workStep, sendEvent, FileTransferService.new, room]

theorem run_failedUploads (n : Nat) (hn : n ≤ channelCapacity) (filePath fileName error : String) :
    run FileTransferService.new (List.replicate n (failedUpload filePath fileName error)).flatten =
      some ({ FileTransferService.new with eventQueue := List.replicate n (uploadError error) },
        List.replicate n (.read filePath (.error error))) := by
  induction n with
  | zero => rfl
  | succ n ih =>
    rw [List.replicate_succ', List.flatten_append, List.flatten_singleton, List.replicate_succ',
      List.replicate_succ']
    exact run_append_of_eq_some (ih (by omega))
      (run_failedUpload _ (by simp only [List.length_replicate]; omega) _ _ _)

/-- Where a consumer that never drains leaves the service after 100 failed
uploads and the read of a 101st: 100 errors queued, the 101st held. -/
def fullChannel : FileTransferService :=
  { FileTransferService.new with
    eventQueue := List.replicate 100 (uploadError "missing"),
    worker := .send (uploadError "missing") .recv }

theorem run_to_fullChannel :
    run FileTransferService.new
        ((List.replicate 100 (failedUpload "missing" "missing.txt" "missing")).flatten ++
          (failedUpload "missing" "missing.txt" "missing").take 3) =
      some (fullChannel, List.replicate 101 (.read "missing" (.error "missing"))) :=
  run_append_of_eq_some (run_failedUploads 100 le_rfl _ _ _) (run_failedUpload_until_send _ _ _ _)

/-- After 100 undrained failed uploads, the 101st `Error` waits: the worker
holds it in front of a full channel of a live handle and cannot step, whatever
the file system does, until the consumer drains. -/
theorem undrained_channel_blocks_worker :
    run FileTransferService.new
        ((List.replicate 100 (failedUpload "missing" "missing.txt" "missing")).flatten ++
          (failedUpload "missing" "missing.txt" "missing").take 3) =
        some (fullChannel, List.replicate 101 (.read "missing" (.error "missing"))) ∧
      fullChannel.dropped = false ∧ fullChannel.eventQueue.length = channelCapacity ∧
      (∃ event cont, fullChannel.worker = .send event cont) ∧ ∀ io, workStep fullChannel io = none :=
  ⟨run_to_fullChannel, rfl, by simp [fullChannel, channelCapacity], ⟨_, _, rfl⟩,
    fun io => by simp [fullChannel, workStep, sendEvent, channelCapacity, FileTransferService.new]⟩

/-- The worker of `fullChannel` waits for room. -/
theorem fullChannel_waits_for_room :
    fullChannel.cmdQueue.length ≤ channelCapacity ∧ fullChannel.eventQueue.length ≤ channelCapacity ∧
    (workStep fullChannel ⟨.ok [], .ok (), 0, 0⟩ = none ↔
      (fullChannel.worker = .recv ∧ fullChannel.cmdQueue = [] ∧ fullChannel.dropped = false) ∨
      (∃ event cont, fullChannel.worker = .send event cont ∧ fullChannel.dropped = false ∧
        fullChannel.eventQueue.length = channelCapacity) ∨
      fullChannel.worker = .stopped) ∧
    ∀ event cont, fullChannel.worker = .send event cont → ∀ max, 0 < max →
      ∀ s' o, step fullChannel (.drainEvents max) = some (s', o) →
        ∃ t o', workStep s' ⟨.ok [], .ok (), 0, 0⟩ = some (t, o') :=
  worker_waits_only_on_full_channel run_to_fullChannel _

end ChiralNetwork.Backpressure
