import ChiralNetwork.EventStream
import ChiralNetwork.Progress

/-!
End-to-end delivery of the transfer service. Only a drop ends the handle, and
the worker stops only once the handle is gone; the consumer of `Progress.serve`
neither submits nor drops. So from every state a run from `new()` reaches with
the handle live, that consumer, and one last `drain_events` of a whole channel,
hand over every event of every submitted command exactly once: one whole block
per command, in the order the commands were submitted. Once the handle is
dropped instead, no send waits any more: the worker takes every command still
queued and ends, with nothing more queued for a consumer.
-/

set_option autoImplicit false
set_option relaxedAutoImplicit false

namespace ChiralNetwork.Delivery

open ChiralNetwork.FileTransfer
open ChiralNetwork.EventStream (IsStream StreamInv Shaped pendingOf start_ne_stopped streamInv_new
  streamInv_step streamInv_run)
open ChiralNetwork.Backpressure (run_bounded)
open ChiralNetwork.Progress (serve workLeft serve_actions submittedCommands_serve run_serve_idle
  run_dropped)

theorem step_stopped {s s' : FileTransferService} {a : Action} {o : List Obs}
    (shaped : Shaped s.worker) (stop : s.worker = .stopped → s.dropped = true ∧ s.cmdQueue = [])
    (h : step s a = some (s', o)) (hs : s'.worker = .stopped) :
    s'.dropped = true ∧ s'.cmdQueue = [] := by
  rcases step_cases h with ⟨_, -, hd, -, rfl, -⟩ | ⟨_, -, hd, rfl, -⟩ | ⟨_, _, _, -, hd, rfl, -⟩ |
      ⟨-, -, rfl, -⟩ | ⟨_, -, hw⟩
  · simp [(stop hs).1] at hd
  · simp [(stop hs).1] at hd
  · simp [(stop hs).1] at hd
  · exact ⟨rfl, (stop hs).2⟩
  · rcases workStep_cases hw with ⟨cmd, _, -, -, rfl, -⟩ | ⟨-, hq, hd, rfl, -⟩ |
        ⟨_, _, _, -, -, rfl, -⟩ | ⟨_, _, _, -, -, rfl, -⟩ | ⟨_, _, _, _, -, -, rfl, -⟩ |
        ⟨_, _, _, _, -, -, rfl, -⟩ | ⟨_, _, held, -, rfl, -⟩ | ⟨_, _, held, -, -, rfl, -⟩
    · exact absurd hs (start_ne_stopped cmd)
    · exact ⟨hd, hq⟩
    all_goals try cases hs
    all_goals (rw [held] at shaped; simp [Shaped] at shaped)

theorem run_stopped {acts : List Action} {s : FileTransferService} {obs : List Obs}
    (h : run FileTransferService.new acts = some (s, obs)) (hs : s.worker = .stopped) :
    s.dropped = true ∧ s.cmdQueue = [] := by
  refine (run_invariant
    (fun acts s obs => StreamInv acts s obs ∧ (s.worker = .stopped → s.dropped = true ∧ s.cmdQueue = []))
    ⟨streamInv_new, nofun⟩ ?_ h).2 hs
  intro _ _ _ _ _ _ ⟨hi, stop⟩ hs
  exact ⟨streamInv_step hi hs, step_stopped hi.shaped stop hs⟩

theorem idle_delivered {acts : List Action} {s : FileTransferService} {obs : List Obs}
    (h : run FileTransferService.new acts = some (s, obs)) (hw : s.worker = .recv)
    (hq : s.cmdQueue = []) (live : s.dropped = false) :
    IsStream (submittedCommands acts) (uploadReads obs) (drainedEvents obs ++ s.eventQueue) := by
  obtain ⟨-, -, produced, ⟨done, doneReads, blocks, current, partReads, part, hsub, hdone, hfl,
    hreads, rfl⟩, hd⟩ := streamInv_run h
  rcases current with _ | cmd
  · obtain ⟨-, rfl, rfl⟩ := hfl
    rw [hq, Option.toList_none, List.append_nil, List.append_nil] at hsub
    have handed : drainedEvents obs ++ s.eventQueue = blocks := by
      simpa [hw, pendingOf] using hd.delivered live
    exact ⟨doneReads, hsub ▸ handed ▸ hdone, by simp [hreads]⟩
  · exact absurd hw hfl.1

/-- From every state a run from `new()` reaches with the handle live, against
every file system: the consumer that drains whenever the worker waits for room,
given more rounds than twice the work left, and then one `drain_events(100)`,
leaves the worker waiting at empty channels of a live handle, and over the whole
run has drained exactly one block per submitted command, in submission order:
no event of any command lost, duplicated or reordered. -/
theorem draining_consumer_receives_stream (env : FileTransferService → WorkerIo)
    {acts : List Action} {s : FileTransferService} {obs : List Obs}
    (h : run FileTransferService.new acts = some (s, obs)) (live : s.dropped = false)
    (fuel : Nat) (enough : 2 * workLeft s < fuel) :
    ∃ t o, run FileTransferService.new
        (acts ++ serve env fuel s ++ [.drainEvents channelCapacity]) = some (t, obs ++ o) ∧
      t.worker = .recv ∧ t.cmdQueue = [] ∧ t.eventQueue = [] ∧ t.dropped = false ∧
      IsStream (submittedCommands acts) (uploadReads (obs ++ o)) (drainedEvents (obs ++ o)) := by
  obtain ⟨u, o, hu, idle⟩ := run_serve_idle env fuel s enough
  have served := run_append_of_eq_some h hu
  have liveU : u.dropped = false :=
    (run_dropped hu fun hm => (serve_actions env fuel s _ hm).2 rfl).trans live
  obtain ⟨hw, hq, -⟩ := idle.resolve_right fun hw => by simp [(run_stopped served hw).1] at liveU
  have full : u.eventQueue.length ≤ channelCapacity := (run_bounded served).2
  have drained : step u (.drainEvents channelCapacity) =
      some ({ u with eventQueue := [] }, u.eventQueue.map .drained) := by
    simp [step, liveU, drainEvents_eq, List.take_of_length_le full, List.drop_of_length_le full]
  refine ⟨{ u with eventQueue := [] }, o ++ u.eventQueue.map .drained, ?_, hw, hq, rfl, liveU, ?_⟩
  · rw [← List.append_assoc]
    exact run_append_of_eq_some served (by simp [run, drained])
  · have stream := idle_delivered served hw hq liveU
    rw [submittedCommands_append, submittedCommands_serve, List.append_nil] at stream
    rwa [← List.append_assoc, drainedEvents_append, drainedEvents_map_drained, uploadReads_append,
      uploadReads_map_drained, List.append_nil]

/-- A download of a missing file, served and drained to the end. -/
theorem missing_download_delivered :
    ∃ t o, run FileTransferService.new
        ([.submit (.downloadFile "missing-hash" "out.txt")] ++
          serve (fun _ => ⟨.ok [], .ok (), 0, 0⟩) 21
            { FileTransferService.new with cmdQueue := [.downloadFile "missing-hash" "out.txt"] } ++
          [.drainEvents channelCapacity]) = some (t, [] ++ o) ∧
      t.worker = .recv ∧ t.cmdQueue = [] ∧ t.eventQueue = [] ∧ t.dropped = false ∧
      IsStream [.downloadFile "missing-hash" "out.txt"] (uploadReads ([] ++ o)) (drainedEvents ([] ++ o)) :=
  @draining_consumer_receives_stream (fun _ => ⟨.ok [], .ok (), 0, 0⟩)
    [.submit (.downloadFile "missing-hash" "out.txt")]
    { FileTransferService.new with cmdQueue := [.downloadFile "missing-hash" "out.txt"] } [] rfl rfl
    21 (by decide)

theorem step_of_dropped {s s' : FileTransferService} {a : Action} {o : List Obs}
    (gone : s.dropped = true) (h : step s a = some (s', o)) :
    s'.dropped = true ∧ s'.eventQueue = s.eventQueue ∧ drainedEvents o = [] := by
  rcases step_cases h with ⟨_, -, hd, -⟩ | ⟨_, -, hd, -⟩ | ⟨_, _, _, -, hd, -⟩ | ⟨-, hd, -⟩ |
      ⟨_, -, hw⟩
  · simp [gone] at hd
  · simp [gone] at hd
  · simp [gone] at hd
  · simp [gone] at hd
  · rcases workStep_cases hw with ⟨_, _, -, -, rfl, rfl⟩ | ⟨-, -, -, rfl, rfl⟩ |
        ⟨_, _, _, -, -, rfl, rfl⟩ | ⟨_, _, _, -, -, rfl, rfl⟩ | ⟨_, _, _, _, -, -, rfl, rfl⟩ |
        ⟨_, _, _, _, -, -, rfl, rfl⟩ | ⟨_, _, -, -, rfl, rfl⟩ | ⟨_, _, -, hd, -, rfl, rfl⟩
    all_goals first | exact ⟨gone, rfl, by simp⟩ | simp [gone] at hd

theorem run_of_dropped {s t : FileTransferService} {acts : List Action} {obs : List Obs}
    (gone : s.dropped = true) (h : run s acts = some (t, obs)) :
    t.dropped = true ∧ t.eventQueue = s.eventQueue ∧ drainedEvents obs = [] := by
  refine run_invariant (fun _ t obs => t.dropped = true ∧ t.eventQueue = s.eventQueue ∧
    drainedEvents obs = []) ⟨gone, rfl, rfl⟩ ?_ h
  intro _ _ _ _ _ _ ⟨g, q, d⟩ hs
  obtain ⟨g', q', d'⟩ := step_of_dropped g hs
  exact ⟨g', q'.trans q, by rw [drainedEvents_append, d, d', List.append_nil]⟩

/-- From every state a run from `new()` reaches once the handle is dropped,
against every file system, the worker never waits: within `2 · workLeft + 1` of
its steps it takes every queued command and ends, its task finished, with
nothing more queued for a consumer and nothing handed over. -/
theorem dropped_worker_finishes (env : FileTransferService → WorkerIo)
    {acts : List Action} {s : FileTransferService} {obs : List Obs}
    (h : run FileTransferService.new acts = some (s, obs)) (gone : s.dropped = true)
    (fuel : Nat) (enough : 2 * workLeft s < fuel) :
    ∃ t o, run s (serve env fuel s) = some (t, o) ∧ t.worker = .stopped ∧ t.cmdQueue = [] ∧
      t.eventQueue = s.eventQueue ∧ drainedEvents o = [] := by
  obtain ⟨t, o, hu, idle⟩ := run_serve_idle env fuel s enough
  obtain ⟨gone', queue, none⟩ := run_of_dropped gone hu
  have hw : t.worker = .stopped := idle.resolve_left fun ⟨_, _, live⟩ => by simp [gone'] at live
  exact ⟨t, o, hu, hw, (run_stopped (run_append_of_eq_some h hu) hw).2, queue, none⟩

/-- A download queued before the drop still runs, and the worker then ends. -/
theorem dropped_download_finishes :
    ∃ t o, run { FileTransferService.new with
          cmdQueue := [.downloadFile "missing-hash" "out.txt"], dropped := true }
        (serve (fun _ => ⟨.ok [], .ok (), 0, 0⟩) 21 { FileTransferService.new with
          cmdQueue := [.downloadFile "missing-hash" "out.txt"], dropped := true }) = some (t, o) ∧
      t.worker = .stopped ∧ t.cmdQueue = [] ∧ t.eventQueue = [] ∧ drainedEvents o = [] :=
  @dropped_worker_finishes (fun _ => ⟨.ok [], .ok (), 0, 0⟩)
    [.submit (.downloadFile "missing-hash" "out.txt"), .drop]
    { FileTransferService.new with cmdQueue := [.downloadFile "missing-hash" "out.txt"], dropped := true }
    [] rfl rfl 21 (by decide)

end ChiralNetwork.Delivery
