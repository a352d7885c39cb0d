import ChiralNetwork.FileTransfer

/-!
The content store of the transfer service. The spec asks that every key be the
SHA-256 digest of the bytes under it. `handle_upload_file` keys what it stores
by `calculate_file_hash`, but `store_file_data` stores under the key its caller
gives. So the store is content-addressed exactly as long as every
`store_file_data` call is, and then every write a download makes carries bytes
whose digest is the hash it was asked for.
-/

set_option autoImplicit false
set_option relaxedAutoImplicit false

namespace ChiralNetwork.ContentStore

open ChiralNetwork.Map (HashMap)
open ChiralNetwork.FileTransfer
open ChiralNetwork.Sha256 (calculateFileHash calculateFileHash_length)
open ChiralNetwork.Metrics (recordAttempt)
open ChiralNetwork.Retry (maxDownloadAttempts)

/-- Every key of the store is the digest of the bytes stored under it. -/
def ContentAddressed (storedFiles : StoredFiles) : Prop :=
  ∀ fileHash fileName fileData, storedFiles.get? fileHash = some (fileName, fileData) →
    calculateFileHash fileData = fileHash

theorem contentAddressed_empty : ContentAddressed HashMap.empty := by
  intro _ _ _ h
  simp at h

theorem ContentAddressed.insert {storedFiles : StoredFiles} (h : ContentAddressed storedFiles)
    {fileHash fileName : String} {fileData : Bytes} (hd : calculateFileHash fileData = fileHash) :
    ContentAddressed (storedFiles.insert fileHash (fileName, fileData)) := by
  intro k n d hk
  rw [HashMap.get?_insert] at hk
  split at hk
  · next same =>
    obtain ⟨-, rfl⟩ := Prod.mk.inj (Option.some.inj hk)
    rw [same, hd]
  · exact h k n d hk

theorem handleDownloadFile_written {fileHash : String} {storedFiles : StoredFiles}
    {write : Except String Unit} {data : Bytes}
    (h : (handleDownloadFile fileHash storedFiles write).2 = some data) :
    ∃ fileName, storedFiles.get? fileHash = some (fileName, data) := by
  unfold handleDownloadFile at h
  split at h
  · cases h
  · next fileName fileData found =>
    cases h
    exact ⟨fileName, found⟩

theorem step_storedFiles {s s' : FileTransferService} {a : Action} {o : List Obs}
    (h : step s a = some (s', o)) :
    s'.storedFiles = s.storedFiles ∨
      (∃ fileName fileData, s'.storedFiles =
        s.storedFiles.insert (calculateFileHash fileData) (fileName, fileData)) ∨
      ∃ fileHash fileName fileData, a = .storeFileData fileHash fileName fileData ∧
        s'.storedFiles = s.storedFiles.insert fileHash (fileName, fileData) := by
  rcases step_cases h with ⟨_, _, _, _, rfl, _⟩ | ⟨_, _, _, rfl, _⟩ | ⟨_, _, _, rfl, _, rfl, _⟩ |
      ⟨_, _, rfl, _⟩ | ⟨_, _, hw⟩
  · exact .inl rfl
  · exact .inl rfl
  · exact .inr (.inr ⟨_, _, _, rfl, rfl⟩)
  · exact .inl rfl
  · rcases workStep_cases hw with ⟨_, _, _, _, rfl, _⟩ | ⟨_, _, _, rfl, _⟩ |
        ⟨_, _, _, _, _, rfl, _⟩ | ⟨_, _, _, _, _, rfl, _⟩ | ⟨_, _, _, _, _, _, rfl, _⟩ |
        ⟨_, _, _, _, _, _, rfl, _⟩ | ⟨_, _, _, _, rfl, _⟩ | ⟨_, _, _, _, _, rfl, _⟩
    all_goals first | exact .inl rfl | exact .inr (.inl ⟨_, _, rfl⟩)

theorem step_wrote {s s' : FileTransferService} {a : Action} {o : List Obs}
    (h : step s a = some (s', o)) {fileHash outputPath : String} {data : Bytes}
    (hm : Obs.wrote fileHash outputPath data ∈ o) :
    ∃ fileName, s.storedFiles.get? fileHash = some (fileName, data) := by
  rcases step_cases h with ⟨_, _, _, _, _, rfl⟩ | ⟨_, _, _, _, rfl⟩ | ⟨_, _, _, _, _, _, rfl⟩ |
      ⟨_, _, _, rfl⟩ | ⟨io, _, hw⟩
  · simp at hm
  · obtain ⟨_, _, drained⟩ := List.mem_map.mp hm
    cases drained
  · simp at hm
  · simp at hm
  · rcases workStep_cases hw with ⟨_, _, _, _, _, rfl⟩ | ⟨_, _, _, _, rfl⟩ |
        ⟨_, _, _, _, _, _, rfl⟩ | ⟨_, _, _, _, _, _, rfl⟩ |
        ⟨fileHash', outputPath', _, _, _, _, _, rfl⟩ | ⟨_, _, _, _, _, _, _, rfl⟩ |
        ⟨_, _, _, _, _, rfl⟩ | ⟨_, _, _, _, _, _, rfl⟩
    all_goals try simp at hm
    rcases hd : (handleDownloadFile fileHash' s.storedFiles io.write).2 with _ | written
    · simp [hd] at hm
    · simp [hd] at hm
      obtain ⟨rfl, -, rfl⟩ := hm
      exact handleDownloadFile_written hd

/-- For every run from `new()` whose `store_file_data` calls each key their
bytes by their digest, the store stays content-addressed and every write of a
download carries bytes whose digest is the hash it was made for. -/
theorem honest_stores_keep_content_addressed {acts : List Action} {s : FileTransferService}
    {obs : List Obs} (h : run FileTransferService.new acts = some (s, obs))
    (honest : ∀ fileHash fileName fileData, Action.storeFileData fileHash fileName fileData ∈ acts →
      calculateFileHash fileData = fileHash) :
    ContentAddressed s.storedFiles ∧
      ∀ fileHash outputPath data, Obs.wrote fileHash outputPath data ∈ obs →
        calculateFileHash data = fileHash := by
  refine run_invariant (fun acts s obs =>
      (∀ fileHash fileName fileData, Action.storeFileData fileHash fileName fileData ∈ acts →
        calculateFileHash fileData = fileHash) →
      ContentAddressed s.storedFiles ∧
        ∀ fileHash outputPath data, Obs.wrote fileHash outputPath data ∈ obs →
          calculateFileHash data = fileHash)
    (fun _ => ⟨contentAddressed_empty, by simp⟩) ?_ h honest
  intro acts s obs a s' o ih hs honest'
  obtain ⟨store, writes⟩ := ih fun _ _ _ hm => honest' _ _ _ (List.mem_append_left _ hm)
  refine ⟨?_, fun fileHash outputPath data hm => ?_⟩
  · rcases step_storedFiles hs with eq | ⟨_, _, eq⟩ | ⟨_, _, _, rfl, eq⟩ <;> rw [eq]
    · exact store
    · exact store.insert rfl
    · exact store.insert (honest' _ _ _ (List.mem_append_right _ (List.mem_singleton_self _)))
  · rcases List.mem_append.mp hm with old | new
    · exact writes _ _ _ old
    · obtain ⟨_, found⟩ := step_wrote hs new
      exact store _ _ _ found

set_option maxRecDepth 100000 in
/-- A `store_file_data` call that keys its bytes by their digest, then a
download of that hash: its write carries the stored bytes. -/
theorem honest_store_content_addressed :
    ∃ s obs, run FileTransferService.new
        [.storeFileData (calculateFileHash [104, 105]) "hi.txt" [104, 105],
          .submit (.downloadFile (calculateFileHash [104, 105]) "out.txt"),
          .work ⟨.ok [], .ok (), 0, 0⟩, .work ⟨.ok [], .ok (), 0, 0⟩] = some (s, obs) ∧
      Obs.wrote (calculateFileHash [104, 105]) "out.txt" [104, 105] ∈ obs ∧
      ContentAddressed s.storedFiles ∧
      ∀ fileHash outputPath data, Obs.wrote fileHash outputPath data ∈ obs →
        calculateFileHash data = fileHash :=
  ⟨_, _, rfl, List.mem_cons_self _ _, @honest_stores_keep_content_addressed
    [.storeFileData (calculateFileHash [104, 105]) "hi.txt" [104, 105],
      .submit (.downloadFile (calculateFileHash [104, 105]) "out.txt"),
      .work ⟨.ok [], .ok (), 0, 0⟩, .work ⟨.ok [], .ok (), 0, 0⟩] _ _ rfl fun _ _ _ hm => by
      simp at hm
      obtain ⟨rfl, -, rfl⟩ := hm
      rfl⟩

/-- The download tests' entry, stored through `store_file_data`: its key
`"test-hash"` is not the digest of `hello world`, which has 64 hex digits. -/
theorem store_file_data_keeps_caller_key :
    ∃ s, run FileTransferService.new
        [.storeFileData "test-hash" "example.txt" [104, 101, 108, 108, 111, 32, 119, 111, 114, 108, 100]] =
        some (s, []) ∧ ¬ContentAddressed s.storedFiles := by
  refine ⟨_, rfl, fun h => ?_⟩
  have digest := congrArg String.length (h "test-hash" _ _ rfl)
  rw [calculateFileHash_length] at digest
  exact absurd digest (by decide)

theorem mem_getStoredFiles_iff (s : FileTransferService) (k : String) :
    k ∈ (getStoredFiles s).map Prod.fst ↔ ∃ entry, s.storedFiles.get? k = some entry := by
  simp only [getStoredFiles, List.map_map, List.mem_map, Function.comp_def,
    HashMap.get?_eq_some_iff]
  exact ⟨fun ⟨⟨k', entry⟩, he, hk⟩ => ⟨entry, hk ▸ he⟩, fun ⟨entry, he⟩ => ⟨(k, entry), he, rfl⟩⟩

theorem step_keeps_file {s s' : FileTransferService} {a : Action} {o : List Obs}
    (h : step s a = some (s', o)) {k : String} (hk : ∃ entry, s.storedFiles.get? k = some entry) :
    ∃ entry, s'.storedFiles.get? k = some entry := by
  rcases step_storedFiles h with eq | ⟨_, _, eq⟩ | ⟨_, _, _, -, eq⟩ <;> rw [eq]
  · exact hk
  all_goals
    rw [HashMap.get?_insert]
    split
    · exact ⟨_, rfl⟩
    · exact hk

/-- `get_stored_files` lists every stored file once, and no operation of the
service ever removes one: along every run, from any state, a hash listed at the
start stays listed, and every later download attempt of it whose write succeeds
is a `Success` that writes the bytes then stored under it and goes on to
`FileDownloaded`. -/
theorem stored_files_stay_downloadable {s t : FileTransferService} {acts : List Action}
    {obs : List Obs} (h : run s acts = some (t, obs)) {k : String}
    (listed : k ∈ (getStoredFiles s).map Prod.fst) :
    ((getStoredFiles t).map Prod.fst).Nodup ∧ k ∈ (getStoredFiles t).map Prod.fst ∧
      ∀ outputPath attempt lastError, t.worker = .attempt k outputPath attempt lastError →
        attempt < maxDownloadAttempts → ∀ io : WorkerIo, io.write = .ok () →
        ∃ fileName data, t.storedFiles.get? k = some (fileName, data) ∧
          workStep t io = some ({ t with
              downloadMetrics := recordAttempt t.downloadMetrics
                ⟨k, attempt + 1, maxDownloadAttempts, .success, io.durationMs, io.timestamp⟩
              worker := .send (.downloadAttempt
                  ⟨k, attempt + 1, maxDownloadAttempts, .success, io.durationMs, io.timestamp⟩)
                (.send (.fileDownloaded outputPath) .recv) },
            [.wrote k outputPath data,
              .recorded ⟨k, attempt + 1, maxDownloadAttempts, .success, io.durationMs, io.timestamp⟩]) := by
  have keys : (getStoredFiles t).map Prod.fst = t.storedFiles.entries.map Prod.fst := by
    simp [getStoredFiles, Function.comp_def]
  have kept : ∃ entry, t.storedFiles.get? k = some entry :=
    run_invariant (fun _ t _ => ∃ entry, t.storedFiles.get? k = some entry)
      ((mem_getStoredFiles_iff s k).mp listed) (fun _ _ _ _ _ _ hk hs => step_keeps_file hs hk) h
  refine ⟨keys ▸ t.storedFiles.nodup, (mem_getStoredFiles_iff t k).mpr kept,
    fun outputPath attempt lastError hw ha io write => ?_⟩
  obtain ⟨⟨fileName, data⟩, found⟩ := kept
  refine ⟨fileName, data, found, ?_⟩
  simp [workStep, hw, ha, handleDownloadFile, found, writeOutput, write, Retry.attemptOutcome,
    afterAttempt, downloadDone]

/-- A stored file stays through the store of another, and the download then
taken for it reaches its first attempt, which writes its bytes. -/
theorem stored_file_downloads_after_store :
    ∃ t obs, run { FileTransferService.new with
          storedFiles := storeFileData HashMap.empty "h" "a.txt" [1] }
        [.storeFileData "g" "b.txt" [2], .submit (.downloadFile "h" "out.txt"),
          .work ⟨.ok [], .ok (), 0, 0⟩] = some (t, obs) ∧
      t.worker = .attempt "h" "out.txt" 0 none ∧
      ((getStoredFiles t).map Prod.fst).Nodup ∧ "h" ∈ (getStoredFiles t).map Prod.fst ∧
      ∀ outputPath attempt lastError, t.worker = .attempt "h" outputPath attempt lastError →
        attempt < maxDownloadAttempts → ∀ io : WorkerIo, io.write = .ok () →
        ∃ fileName data, t.storedFiles.get? "h" = some (fileName, data) ∧
          workStep t io = some ({ t with
              downloadMetrics := recordAttempt t.downloadMetrics
                ⟨"h", attempt + 1, maxDownloadAttempts, .success, io.durationMs, io.timestamp⟩
              worker := .send (.downloadAttempt
                  ⟨"h", attempt + 1, maxDownloadAttempts, .success, io.durationMs, io.timestamp⟩)
                (.send (.fileDownloaded outputPath) .recv) },
            [.wrote "h" outputPath data,
              .recorded ⟨"h", attempt + 1, maxDownloadAttempts, .success, io.durationMs, io.timestamp⟩]) :=
  ⟨_, _, rfl, rfl, @stored_files_stay_downloadable
    { FileTransferService.new with storedFiles := storeFileData HashMap.empty "h" "a.txt" [1] } _
    [.storeFileData "g" "b.txt" [2], .submit (.downloadFile "h" "out.txt"), .work ⟨.ok [], .ok (), 0, 0⟩]
    _ rfl "h" (by decide)⟩

end ChiralNetwork.ContentStore
