import ChiralNetwork.Backpressure

/-!
Progress of the transfer worker. `rank` counts the steps the worker still takes
for the command in hand, and each queued command may cost it
`2 · MAX_DOWNLOAD_ATTEMPTS + 3` more: every step of the worker lowers this work
left, so the worker never runs on its own, and makes at most that many steps
per command. Against every file system, a consumer that drains the event
channel whenever the worker waits for room gets the worker back to waiting for
a command at an empty queue, or to its end.
-/

set_option autoImplicit false
set_option relaxedAutoImplicit false

namespace ChiralNetwork.Progress

open ChiralNetwork.FileTransfer
open ChiralNetwork.Backpressure (workStep_eq_none_iff workStep_send_of_room failedUpload uploadError
  run_failedUpload)
open ChiralNetwork.Retry (After maxDownloadAttempts)

/-- The steps a worker state still takes before the worker is back at `recv`,
counting one for the next receipt. -/
def rank : Worker → Nat
  | .recv => 1
  | .upload .. => 3
  | .attempt _ _ attempt _ => 2 * (maxDownloadAttempts - attempt) + 3
  | .send _ cont => rank cont + 1
  | .stopped => 0

/-- The most a queued command costs the worker, its receipt included. -/
def commandWeight : Nat := 2 * maxDownloadAttempts + 3

/-- The work left in a state: the worker's rank and the weight of every queued command. -/
def workLeft (s : FileTransferService) : Nat := rank s.worker + commandWeight * s.cmdQueue.length

/-- Whether an action is a step of the worker. -/
def isWork : Action → Bool
  | .work _ => true
  | _ => false

theorem rank_start_le (cmd : FileTransferCommand) : rank (Worker.start cmd) ≤ commandWeight := by
  cases cmd <;> simp [Worker.start, rank, commandWeight]

theorem rank_downloadDone (outputPath : String) (result : Except String Unit) :
    rank (downloadDone outputPath result) = 2 := by
  rcases result with _ | ⟨⟩ <;> rfl

theorem rank_afterAttempt {fileHash outputPath : String} {attempt : Nat}
    (ha : attempt < maxDownloadAttempts) (after : After) :
    rank (afterAttempt fileHash outputPath (attempt + 1) after) + 1 <
      2 * (maxDownloadAttempts - attempt) + 3 := by
  rcases after with result | lastError
  · rw [afterAttempt, rank_downloadDone]
    omega
  · simp only [afterAttempt, rank]
    omega

theorem workStep_workLeft {s s' : FileTransferService} {io : WorkerIo} {o : List Obs}
    (h : workStep s io = some (s', o)) : workLeft s' < workLeft s := by
  rcases workStep_cases h with ⟨cmd, rest, hw, hq, rfl, -⟩ | ⟨hw, hq, -, rfl, -⟩ |
      ⟨_, _, _, hw, -, rfl, -⟩ | ⟨_, _, _, hw, -, rfl, -⟩ | ⟨_, _, _, _, hw, ha, rfl, -⟩ |
      ⟨_, _, _, _, hw, ha, rfl, -⟩ | ⟨_, _, hw, -, rfl, -⟩ | ⟨_, _, hw, -, -, rfl, -⟩
  · have := rank_start_le cmd
    simp only [workLeft, hw, hq, rank, List.length_cons, Nat.mul_succ]
    omega
  · simp [workLeft, hw, hq, rank]
  all_goals simp only [workLeft, hw, rank]
  · omega
  · omega
  · exact Nat.add_lt_add_right (rank_afterAttempt ha _) _
  all_goals omega

theorem step_workLeft {s s' : FileTransferService} {a : Action} {o : List Obs}
    (h : step s a = some (s', o)) :
    (if isWork a then 1 else 0) + workLeft s' ≤
      workLeft s + commandWeight * a.submitted.toList.length := by
  rcases step_cases h with ⟨_, rfl, -, -, rfl, -⟩ | ⟨_, rfl, -, rfl, -⟩ | ⟨_, _, _, rfl, -, rfl, -⟩ |
      ⟨rfl, -, rfl, -⟩ | ⟨io, rfl, hw⟩
  · simp [isWork, workLeft, Nat.mul_add]
    omega
  · simp [isWork, workLeft]
  · simp [isWork, workLeft]
  · simp [isWork, workLeft]
  · have := workStep_workLeft hw
    simp only [isWork, if_true, Action.submitted, Option.toList_none, List.length_nil,
      Nat.mul_zero, Nat.add_zero]
    omega

/-- In every run, from any state, the worker takes at most the work left at the
start plus `2 · MAX_DOWNLOAD_ATTEMPTS + 3` steps per command submitted, and
less by what is left at the end: from `new()`, at most `1 + 9 n` steps for `n`
commands. -/
theorem work_steps_bounded {s t : FileTransferService} {acts : List Action} {obs : List Obs}
    (h : run s acts = some (t, obs)) :
    (acts.filter isWork).length + workLeft t ≤
      workLeft s + commandWeight * (submittedCommands acts).length := by
  refine run_invariant (fun acts t _ => (acts.filter isWork).length + workLeft t ≤
      workLeft s + commandWeight * (submittedCommands acts).length) (by simp) ?_ h
  intro acts u _ a u' _ ih hs
  have := step_workLeft hs
  cases hwork : isWork a <;> simp [List.filter, hwork, Nat.mul_add] at this ⊢ <;> omega

/-- One failed upload: three steps of the worker for one command. -/
theorem failed_upload_work_bounded :
    ((failedUpload "missing" "missing.txt" "missing").filter isWork).length +
        workLeft { FileTransferService.new with eventQueue := [uploadError "missing"] } ≤
      workLeft FileTransferService.new +
        commandWeight * (submittedCommands (failedUpload "missing" "missing.txt" "missing")).length :=
  work_steps_bounded (run_failedUpload [] (by decide) "missing" "missing.txt" "missing")

/-- The consumer that drains the whole event channel whenever the worker waits
for room, against a file system that answers `env` in each state: the actions
of up to `fuel` rounds, stopping once the worker waits for anything else. -/
def serve (env : FileTransferService → WorkerIo) : Nat → FileTransferService → List Action
  | 0, _ => []
  | fuel + 1, s =>
    match step s (.work (env s)) with
    | some (s', _) => .work (env s) :: serve env fuel s'
    | none =>
      match s.worker, step s (.drainEvents s.eventQueue.length) with
      | .send .., some (s', _) => .drainEvents s.eventQueue.length :: serve env fuel s'
      | _, _ => []

theorem step_dropped {s s' : FileTransferService} {a : Action} {o : List Obs}
    (h : step s a = some (s', o)) (ha : a ≠ .drop) : s'.dropped = s.dropped := by
  rcases step_cases h with ⟨_, -, -, -, rfl, -⟩ | ⟨_, -, -, rfl, -⟩ | ⟨_, _, _, -, -, rfl, -⟩ |
      ⟨rfl, -⟩ | ⟨_, -, hw⟩
  · rfl
  · rfl
  · rfl
  · exact absurd rfl ha
  · rcases workStep_cases hw with ⟨_, _, -, -, rfl, -⟩ | ⟨-, -, -, rfl, -⟩ |
        ⟨_, _, _, -, -, rfl, -⟩ | ⟨_, _, _, -, -, rfl, -⟩ | ⟨_, _, _, _, -, -, rfl, -⟩ |
        ⟨_, _, _, _, -, -, rfl, -⟩ | ⟨_, _, -, -, rfl, -⟩ | ⟨_, _, -, -, -, rfl, -⟩ <;> rfl

theorem run_dropped {s t : FileTransferService} {acts : List Action} {obs : List Obs}
    (h : run s acts = some (t, obs)) (hd : Action.drop ∉ acts) : t.dropped = s.dropped := by
  refine run_invariant (fun acts t _ => Action.drop ∉ acts → t.dropped = s.dropped) (fun _ => rfl)
    ?_ h hd
  intro acts u _ a u' _ ih hs hd'
  rw [step_dropped hs fun ha => hd' (ha ▸ List.mem_append_right _ (List.mem_singleton_self _))]
  exact ih fun hm => hd' (List.mem_append_left _ hm)

theorem serve_actions (env : FileTransferService → WorkerIo) :
    ∀ fuel s, ∀ a ∈ serve env fuel s, a.submitted = none ∧ a ≠ .drop := by
  intro fuel
  induction fuel with
  | zero => simp [serve]
  | succ fuel ih =>
    intro s a ha
    unfold serve at ha
    split at ha
    · rcases List.mem_cons.mp ha with rfl | later
      · simp
      · exact ih _ a later
    · split at ha
      · rcases List.mem_cons.mp ha with rfl | later
        · simp
        · exact ih _ a later
      · simp at ha

theorem submittedCommands_serve (env : FileTransferService → WorkerIo) (fuel : Nat)
    (s : FileTransferService) : submittedCommands (serve env fuel s) = [] :=
  List.filterMap_eq_nil_iff.mpr fun a ha => (serve_actions env fuel s a ha).1

theorem run_serve_idle (env : FileTransferService → WorkerIo) (fuel : Nat) :
    ∀ s, 2 * workLeft s < fuel → ∃ t o, run s (serve env fuel s) = some (t, o) ∧
      (t.worker = .recv ∧ t.cmdQueue = [] ∧ t.dropped = false ∨ t.worker = .stopped) := by
  induction fuel using Nat.strong_induction_on with
  | _ fuel ih =>
  intro s enough
  obtain ⟨fuel, rfl⟩ : ∃ f, fuel = f + 1 := ⟨fuel - 1, by omega⟩
  rcases hs : step s (.work (env s)) with _ | ⟨s', o⟩
  · rcases (workStep_eq_none_iff s (env s)).mp hs with ⟨hw, hq, hd⟩ | ⟨event, cont, hw, hd, -⟩ | hw
    · refine ⟨s, [], ?_, .inl ⟨hw, hq, hd⟩⟩
      simp [serve, hs, hw, run_nil]
    · obtain ⟨cmdQueue, eventQueue, storedFiles, metrics, worker, dropped⟩ := s
      simp only at hw hd
      subst hw hd
      set drained : FileTransferService := ⟨cmdQueue, [], storedFiles, metrics, .send event cont, false⟩
      have emptied : step ⟨cmdQueue, eventQueue, storedFiles, metrics, .send event cont, false⟩
          (.drainEvents eventQueue.length) = some (drained, eventQueue.map .drained) := by
        simp [drained, step, drainEvents_eq]
      obtain ⟨fuel, rfl⟩ : ∃ f, fuel = f + 1 :=
        ⟨fuel - 1, by simp only [workLeft, rank] at enough; omega⟩
      obtain ⟨s'', o'', sent⟩ := workStep_send_of_room (s := drained) rfl
        (by simp [drained, channelCapacity]) (env drained)
      have lower := workStep_workLeft sent
      obtain ⟨t, o''', run', idle⟩ := ih fuel (by omega) s'' (by simp only [workLeft] at *; omega)
      refine ⟨t, eventQueue.map .drained ++ (o'' ++ o'''), ?_, idle⟩
      simp only [serve, hs, emptied, show step drained (.work (env drained)) = some (s'', o'') from sent]
      exact run_cons_of_eq_some emptied (run_cons_of_eq_some sent run')
    · refine ⟨s, [], ?_, .inr hw⟩
      simp [serve, hs, hw, run_nil]
  · have lower := workStep_workLeft (show workStep s (env s) = some (s', o) from hs)
    obtain ⟨t, o', run', idle⟩ := ih fuel (by omega) s' (by omega)
    refine ⟨t, o ++ o', ?_, idle⟩
    rw [serve, hs]
    exact run_cons_of_eq_some hs run'

/-- Against every file system, from every state, the consumer that drains the
event channel whenever the worker waits for room never drops the handle, and
brings the worker, within `2 · workLeft + 1` rounds, back to `recv` at a live
handle with no command queued, or to its end. -/
theorem serve_reaches_idle (env : FileTransferService → WorkerIo) (fuel : Nat) :
    ∀ s, 2 * workLeft s < fuel → ∃ t o, run s (serve env fuel s) = some (t, o) ∧
      t.dropped = s.dropped ∧
      (t.worker = .recv ∧ t.cmdQueue = [] ∧ t.dropped = false ∨ t.worker = .stopped) := by
  intro s enough
  obtain ⟨t, o, hrun, idle⟩ := run_serve_idle env fuel s enough
  exact ⟨t, o, hrun, run_dropped hrun fun hm => (serve_actions env fuel s _ hm).2 rfl, idle⟩

/-- A queued download of a missing file, served to the end. -/
theorem serve_missing_download_idle :
    ∃ t o, run { FileTransferService.new with cmdQueue := [.downloadFile "missing-hash" "out.txt"] }
        (serve (fun _ => ⟨.ok [], .ok (), 0, 0⟩) 21
          { FileTransferService.new with cmdQueue := [.downloadFile "missing-hash" "out.txt"] }) =
        some (t, o) ∧ t.dropped = false ∧
        (t.worker = .recv ∧ t.cmdQueue = [] ∧ t.dropped = false ∨ t.worker = .stopped) :=
  serve_reaches_idle _ 21 _ (by decide)

end ChiralNetwork.Progress
