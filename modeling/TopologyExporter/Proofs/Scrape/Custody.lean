import TopologyExporter.Proofs.Files.Way
import TopologyExporter.Proofs.Scrape.Progress

/-!
# Custody — the temporary files of a run

Any number of jobs may have staged files at a time, those that tasks wait for and those left behind.
Each has a temporary file with a number of its own, and no one else touches it: a move of a run
stages one more, throws one away, or commits one, which is all that it does to files.

## Results

* `Run.move?_files`        — what a move does with staged files, and with all others.
* `Run.Files.custody`      — every staged file keeps a temporary file of its own.
* `Run.Files.spares`       — which stays as it is while others move.
* `Run.Files.changesFiles` — nothing else changes in the tree than files,
* `Run.Files.landing`      — so that a file that lands later lands where it would have before.
-/

namespace TopologyExporter

-- ---------------------------------------------------------------------------
-- Numbers that are held
-- ---------------------------------------------------------------------------

/-- The number of the temporary file that a job has staged, if it has. -/
def StagingJob.numbers : StagingJob → List Nat
  | staged file => [file.number]
  | _ => []

/-- The number of the temporary file that a task waits to commit, if it does. -/
def Task.numbers (t : Task) : List Nat := t.job?.toList.flatMap StagingJob.numbers

/-- The numbers of all files that are staged. -/
def Run.numbers (r : Run) : List Nat :=
  r.tasks.flatMap Task.numbers ++ r.storage.abandoned.flatMap StagingJob.numbers

/-- A run begins with the files that were left behind before, … -/
theorem Run.numbers_start (calls : List (String × Call)) (limit : Duration)
    (channel : Channel SinkItem) (storage : Storage) :
    (Run.start calls limit channel storage).numbers =
      storage.abandoned.flatMap StagingJob.numbers := by
  have hNone : (Run.start calls limit channel storage).tasks.flatMap Task.numbers = [] := by
    refine List.flatMap_eq_nil_iff.mpr fun t ht => ?_
    obtain ⟨call, -, rfl⟩ := List.mem_map.mp ht
    rfl
  rw [Run.numbers, hNone]
  rfl

/-- … and when it is over no others are staged than those that are left behind. -/
theorem Run.numbers_of_isOver {r : Run} (hOver : r.isOver = true) :
    r.numbers = r.storage.abandoned.flatMap StagingJob.numbers := by
  rw [isOver, Bool.and_eq_true, List.all_eq_true] at hOver
  have hNone : r.tasks.flatMap Task.numbers = [] := by
    refine List.flatMap_eq_nil_iff.mpr fun t ht => ?_
    obtain ⟨error, hEnded⟩ := Task.exists_ended (hOver.1 t ht)
    simp [Task.numbers, Task.job?, hEnded]
  rw [numbers, hNone, List.nil_append]

/-- Whether each of some numbers is that of one temporary file, and of no other. -/
structure FileTree.Custody (t : FileTree) (numbers : List Nat) : Prop where
  distinct : numbers.Nodup
  kept     : ∀ n ∈ numbers, ∃ parent content, ∀ p, t.get? (p ++ [.temp n]) =
    if p = parent then some (.file content FileTree.publicMode) else none

namespace FileTree.Custody

variable {t : FileTree} {numbers : List Nat} {n : Nat} {p q : Location} {node : Node}
  {content : Bytes}

/-- What is found under the number of a staged file is that file. -/
theorem eq_of_get? (h : t.Custody numbers) (hn : n ∈ numbers)
    (hFile : t.get? (p ++ [EntryName.temp n]) = some (.file content publicMode))
    (hNode : t.get? (q ++ [EntryName.temp n]) = some node) : node = .file content publicMode := by
  obtain ⟨parent, content', hKept⟩ := h.kept n hn
  rw [hKept] at hFile hNode
  split at hFile
  case isFalse => simp at hFile
  case isTrue =>
    split at hNode
    case isFalse => simp at hNode
    case isTrue => rw [← Option.some.inj hNode, Option.some.inj hFile]

theorem ne_directory (h : t.Custody numbers) (hn : n ∈ numbers) :
    t.get? (p ++ [EntryName.temp n]) ≠ some .directory := by
  obtain ⟨parent, content, hKept⟩ := h.kept n hn
  rw [hKept]
  split <;> simp

end FileTree.Custody

/-- What one item of a list contributes, apart from all others. -/
theorem exists_flatMap_rest {α β : Type} (f : α → List β) {items : List α}
    {i : Nat} {item : α} (h : items[i]? = some item) :
    ∃ rest, (items.flatMap f).Perm (f item ++ rest) ∧
      (∀ item', ((items.set i item').flatMap f).Perm (f item' ++ rest)) ∧
      ((items.eraseIdx i).flatMap f).Perm rest := by
  induction items generalizing i with
  | nil => simp at h
  | cons first others ih =>
    cases i with
    | zero =>
      obtain rfl : first = item := by simpa using h
      exact ⟨others.flatMap f, .refl _, fun _ => .refl _, .refl _⟩
    | succ i =>
      obtain ⟨rest, hItems, hSet, hErase⟩ := ih (by simpa using h)
      have hSwap (front : List β) :
          (f first ++ (front ++ rest)).Perm (front ++ (f first ++ rest)) := by
        rw [← List.append_assoc, ← List.append_assoc]
        exact List.perm_append_comm.append_right rest
      refine ⟨f first ++ rest, ?_, fun item' => ?_, ?_⟩
      · exact (hItems.append_left (f first)).trans (hSwap _)
      · exact ((hSet item').append_left (f first)).trans (hSwap _)
      · exact hErase.append_left (f first)

-- ---------------------------------------------------------------------------
-- What a move does to files
-- ---------------------------------------------------------------------------

namespace Run

/-- What can become of the files that are staged, by number, and of the tree: nothing, one file more
is staged, one is discarded, or one has landed on its destination. -/
inductive Files (numbers : List Nat) (tree : FileTree) :
    Option String → List Nat → FileTree → Prop
  | keeps {numbers' : List Nat} (hNumbers : numbers'.Perm numbers) :
      Files numbers tree none numbers' tree
  | stages {numbers' : List Nat} (hNumbers : numbers'.Perm (tree.freshNumber :: numbers))
      (parent : Location) (content : Bytes) :
      Files numbers tree none numbers'
        (tree.put (parent ++ [.temp tree.freshNumber]) (.file content FileTree.publicMode))
  | discards {numbers' : List Nat} {file : StagedFile}
      (hNumbers : numbers.Perm (file.number :: numbers')) :
      Files numbers tree none numbers' (file.discard tree)
  | lands {numbers' : List Nat} {file : StagedFile} {tree' : FileTree}
      (hNumbers : numbers.Perm (file.number :: numbers'))
      (hCommit : file.commit tree = (.ok (), tree')) :
      Files numbers tree (some file.destination) numbers' tree'

variable {r r' : Run} {m : Move} {numbers numbers' rest : List Nat} {tree tree' : FileTree}
  {landed : Option String}

/-- Staging under way is finished: nothing is staged by it before. -/
theorem Files.finish {job : StagingJob} (hRunning : job.isOver = false)
    (hNumbers : numbers.Perm (job.numbers ++ rest))
    (hNumbers' : numbers'.Perm ((job.finish tree).1.numbers ++ rest)) :
    Files numbers tree none numbers' (job.finish tree).2 := by
  cases job with
  | staged file => simp [StagingJob.isOver] at hRunning
  | failed error => simp [StagingJob.isOver] at hRunning
  | running destination content =>
    rw [StagingJob.finish] at hNumbers' ⊢
    cases hStage : tree.stage destination ⟨content, none⟩ with
    | error error =>
      rw [hStage] at hNumbers'
      exact .keeps (hNumbers'.trans hNumbers.symm)
    | ok staged =>
      obtain ⟨file, tree'⟩ := staged
      obtain ⟨parent, -, rfl, rfl⟩ := FileTree.stage_eq_ok hStage
      rw [hStage] at hNumbers'
      exact .stages (hNumbers'.trans (hNumbers.symm.cons _)) parent content

/-- A task that goes on leaves the files alone, or commits or discards the one that it waits for. -/
theorem Files.proceeds {t t' : Task} {channel channel' : Channel SinkItem} {now : Nat}
    (h : t.Proceeds channel tree now t' channel' tree')
    (hNumbers : numbers.Perm (t.numbers ++ rest))
    (hNumbers' : numbers'.Perm (t'.numbers ++ rest)) :
    ∃ landed, Files numbers tree landed numbers' tree' ∧
      ∀ destination, landed = some destination →
        ∃ file, t.activity = .staging (.staged file) ∧ file.destination = destination := by
  have hKeeps (hNone : t.numbers = []) (hNone' : t'.numbers = []) :
      Files numbers tree none numbers' tree := by
    rw [hNone] at hNumbers
    rw [hNone'] at hNumbers'
    exact .keeps (hNumbers'.trans hNumbers.symm)
  have hReady (h : t.activity = .ready) : t.numbers = [] := by simp [Task.numbers, Task.job?, h]
  cases h with
  | wakes hAsleep _ =>
    exact ⟨none, hKeeps (by simp [Task.numbers, Task.job?, hAsleep]) rfl, by simp⟩
  | learnsFailure hJob =>
    exact ⟨none,
      hKeeps (by simp [Task.numbers, Task.job?, hJob, StagingJob.numbers]) rfl, by simp⟩
  | @commits file tree' hJob hCommit =>
    have hOne : t.numbers = [file.number] := by
      simp [Task.numbers, Task.job?, hJob, StagingJob.numbers]
    rw [hOne] at hNumbers
    refine ⟨_, .lands (hNumbers.trans (hNumbers'.symm.cons _)) hCommit, ?_⟩
    rintro _ ⟨⟩
    exact ⟨file, hJob, rfl⟩
  | @failsToCommit file error tree' hJob hCommit =>
    have hOne : t.numbers = [file.number] := by
      simp [Task.numbers, Task.job?, hJob, StagingJob.numbers]
    rw [hOne] at hNumbers
    rw [StagedFile.commit_eq_error hCommit]
    exact ⟨none, .discards (hNumbers.trans (hNumbers'.symm.cons _)), by simp⟩
  | returns hActivity _ _ => exact ⟨none, hKeeps (hReady hActivity) rfl, by simp⟩
  | panics hActivity _ _ => exact ⟨none, hKeeps (hReady hActivity) rfl, by simp⟩
  | pauses hActivity _ => exact ⟨none, hKeeps (hReady hActivity) rfl, by simp⟩
  | stages hActivity _ => exact ⟨none, hKeeps (hReady hActivity) rfl, by simp⟩
  | sends hActivity _ _ _ => exact ⟨none, hKeeps (hReady hActivity) (hReady hActivity), by simp⟩
  | findsClosed hActivity _ _ => exact ⟨none, hKeeps (hReady hActivity) rfl, by simp⟩

/-- A task that times out leaves its staged file behind: the number goes from the task to the jobs
that no one waits for. -/
theorem timeOut_files {i : Nat} {t : Task} (hTask : r.tasks[i]? = some t) :
    Files r.numbers r.storage.tree none (r.timeOut i t).numbers (r.timeOut i t).storage.tree := by
  obtain ⟨rest, hBefore, hAfter, -⟩ := exists_flatMap_rest Task.numbers hTask
  have hMoved : (r.timeOut i t).numbers.Perm
      (rest ++ (r.storage.abandoned.flatMap StagingJob.numbers ++ t.numbers)) := by
    rw [Run.numbers, Run.timeOut, List.flatMap_append]
    exact (hAfter _).append_right _
  have hNumbers :
      r.numbers.Perm (t.numbers ++ (rest ++ r.storage.abandoned.flatMap StagingJob.numbers)) := by
    rw [← List.append_assoc]
    exact hBefore.append_right _
  refine .keeps (hMoved.trans (.trans ?_ hNumbers.symm))
  rw [← List.append_assoc]
  exact List.perm_append_comm

/-- **What a move does with staged files and with all others.** A file lands only if its task goes
on. -/
theorem move?_files (h : r.move? m = some r') :
    ∃ landed, Files r.numbers r.storage.tree landed r'.numbers r'.storage.tree ∧
      ∀ destination, landed = some destination →
        ∃ i t file, m = .proceed i ∧ r.tasks[i]? = some t ∧
          t.activity = .staging (.staged file) ∧
          file.destination = destination := by
  cases m with
  | proceed i =>
    obtain ⟨t, t', channel, tree, hTask, hProceeds, rfl⟩ := proceed_eq_some h
    obtain ⟨rest, hBefore, hAfter, -⟩ := exists_flatMap_rest Task.numbers hTask
    have hNumbers := hBefore.append_right (r.storage.abandoned.flatMap StagingJob.numbers)
    have hNumbers' := (hAfter t').append_right (r.storage.abandoned.flatMap StagingJob.numbers)
    rw [List.append_assoc] at hNumbers hNumbers'
    obtain ⟨landed, hFiles, hLanded⟩ := Files.proceeds hProceeds hNumbers hNumbers'
    refine ⟨landed, hFiles, fun destination hEq => ?_⟩
    obtain ⟨file, hJob, hDestination⟩ := hLanded destination hEq
    exact ⟨i, t, file, rfl, hTask, hJob, hDestination⟩
  | expire i =>
    obtain ⟨t, hTask, -, rfl⟩ := expire_eq_some h
    exact ⟨none, timeOut_files hTask, by simp⟩
  | stage i =>
    obtain ⟨t, job, hTask, hJob, hRunning, rfl⟩ := stage_eq_some h
    obtain ⟨rest, hBefore, hAfter, -⟩ := exists_flatMap_rest Task.numbers hTask
    have hNumbers := hBefore.append_right (r.storage.abandoned.flatMap StagingJob.numbers)
    have hNumbers' :=
      (hAfter { t with activity := .staging (job.finish r.storage.tree).1 }).append_right
        (r.storage.abandoned.flatMap StagingJob.numbers)
    rw [List.append_assoc] at hNumbers hNumbers'
    have hOwn : t.numbers = job.numbers := by simp [Task.numbers, Task.job?, hJob]
    have hOwn' : Task.numbers { t with activity := .staging (job.finish r.storage.tree).1 } =
        (job.finish r.storage.tree).1.numbers := by simp [Task.numbers, Task.job?]
    exact ⟨none, .finish hRunning (hOwn ▸ hNumbers) (hOwn' ▸ hNumbers'), by simp⟩
  | receive =>
    obtain ⟨item, rest, -, rfl⟩ := receive_eq_some h
    exact ⟨none, .keeps (.refl _), by simp⟩
  | sweep i =>
    obtain ⟨storage, hSweep, rfl⟩ := sweep_eq_some h
    refine ⟨none, ?_, by simp⟩
    rw [Storage.sweep?] at hSweep
    obtain ⟨job, hJob, hSweep⟩ := Option.bind_eq_some_iff.mp hSweep
    obtain ⟨rest, hBefore, hAfter, hErased⟩ := exists_flatMap_rest StagingJob.numbers hJob
    have hFront {numbers : List Nat} {abandoned : List Nat}
        (hPerm : abandoned.Perm (numbers ++ rest)) :
        (r.tasks.flatMap Task.numbers ++ abandoned).Perm
          (numbers ++ (r.tasks.flatMap Task.numbers ++ rest)) := by
      refine (hPerm.append_left _).trans ?_
      rw [← List.append_assoc, ← List.append_assoc]
      exact List.perm_append_comm.append_right rest
    split at hSweep
    case isTrue hOver =>
      obtain rfl := Option.some.inj hSweep
      have hErased' : (r.tasks.flatMap Task.numbers ++ _).Perm _ := hErased.append_left _
      cases job with
      | running destination content => simp [StagingJob.isOver] at hOver
      | failed error => exact .keeps (hErased'.trans (hFront hBefore).symm)
      | staged file => exact .discards ((hFront hBefore).trans (hErased'.symm.cons _))
    case isFalse hRunning =>
      obtain rfl := Option.some.inj hSweep
      exact .finish (by simpa using hRunning) (hFront hBefore) (hFront (hAfter _))
  | advance =>
    obtain ⟨time, -, rfl⟩ := advance_eq_some h
    exact ⟨none, .keeps (.refl _), by simp⟩

/-- Whenever the limit strikes, a step does no more than that. -/
theorem Step.files {events : List RunEvent} (h : r.Step events r') :
    ∃ landed, Files r.numbers r.storage.tree landed r'.numbers r'.storage.tree ∧
      ∀ destination, landed = some destination →
        ∃ i t file, r.move? (.proceed i) = some r' ∧ r.tasks[i]? = some t ∧
          t.activity = .staging (.staged file) ∧ file.destination = destination := by
  have hMoves {m : Move} (hMove : r.move? m = some r') :
      ∃ landed, Files r.numbers r.storage.tree landed r'.numbers r'.storage.tree ∧
        ∀ destination, landed = some destination →
          ∃ i t file, r.move? (.proceed i) = some r' ∧ r.tasks[i]? = some t ∧
            t.activity = .staging (.staged file) ∧ file.destination = destination := by
    obtain ⟨landed, hFiles, hLanded⟩ := move?_files hMove
    refine ⟨landed, hFiles, fun destination hEq => ?_⟩
    obtain ⟨i, t, file, rfl, hTask, hJob, hDestination⟩ := hLanded destination hEq
    exact ⟨i, t, file, hMove, hTask, hJob, hDestination⟩
  cases h with
  | timesOut hTask hActive => exact ⟨none, timeOut_files hTask, by simp⟩
  | proceeds hMove => exact hMoves hMove
  | stages hMove => exact hMoves hMove
  | receives hMove => exact hMoves hMove
  | sweeps hMove => exact hMoves hMove
  | advances hMove => exact hMoves hMove

-- ---------------------------------------------------------------------------
-- What stays as it is
-- ---------------------------------------------------------------------------

private theorem temp_inj {p q : Location} {n m : Nat}
    (h : p ++ [EntryName.temp n] = q ++ [EntryName.temp m]) : p = q ∧ n = m := by
  simpa using List.append_inj' h rfl

private theorem plain_ne_temp {p q : Location} {n : Nat} (h : isPlain p = true) :
    p ≠ q ++ [EntryName.temp n] := by
  rintro rfl
  simp at h

private theorem landing_isPlain {destination : String} {target : Location}
    (h : tree.landing destination = .ok target) : isPlain target = true :=
  FileTree.entryPlace_isPlain (FileTree.landing_eq_ok h).1

namespace Files

variable {n : Nat} {p : Location}

/-- A number that is held is not fresh. -/
theorem ne_freshNumber (hCustody : tree.Custody numbers) (hn : n ∈ numbers) :
    n ≠ tree.freshNumber := by
  rintro rfl
  obtain ⟨parent, content, hKept⟩ := hCustody.kept _ hn
  have hThere := (hKept parent).trans (if_pos rfl)
  exact FileTree.freshNumber_notMem parent (FileTree.mem_keys_of_get? (by simp) hThere)

/-- **The temporary file of a number that stays held stays as it is.** -/
theorem spares (h : Files numbers tree landed numbers' tree') (hCustody : tree.Custody numbers)
    (hn : n ∈ numbers) (hn' : n ∈ numbers') :
    tree'.get? (p ++ [EntryName.temp n]) = tree.get? (p ++ [EntryName.temp n]) := by
  have hOther {m : Nat} (hNumbers : numbers.Perm (m :: numbers')) : n ≠ m := by
    rintro rfl
    exact (List.nodup_cons.mp (hNumbers.nodup_iff.mp hCustody.distinct)).1 hn'
  have hErase {m : Nat} {q : Location} (hm : n ≠ m) :
      (tree.erase (q ++ [EntryName.temp m])).get? (p ++ [EntryName.temp n]) =
        tree.get? (p ++ [EntryName.temp n]) :=
    FileTree.get?_erase_of_ne fun hEq => hm (temp_inj hEq).2
  cases h with
  | keeps hNumbers => rfl
  | stages hNumbers parent content =>
    exact FileTree.get?_put_of_ne fun hEq => ne_freshNumber hCustody hn (temp_inj hEq).2
  | @discards _ file hNumbers =>
    unfold StagedFile.discard
    rw [StagedFile.place, FileTree.tempPlace_eq]
    cases tree.directoryPlace file.directory with
    | error reason => rfl
    | ok parent => exact hErase (hOther hNumbers)
  | lands hNumbers hCommit =>
    obtain ⟨parent, node, target, -, -, hLanding, rfl⟩ := StagedFile.commit_eq_ok hCommit
    rw [FileTree.get?_put_of_ne (plain_ne_temp (landing_isPlain hLanding)).symm,
      hErase (hOther hNumbers)]

/-- **Every staged file keeps a temporary file of its own.** -/
theorem custody (h : Files numbers tree landed numbers' tree') (hCustody : tree.Custody numbers) :
    tree'.Custody numbers' := by
  have hKept {n : Nat} (hn : n ∈ numbers) (hn' : n ∈ numbers') :
      ∃ parent content, ∀ p, tree'.get? (p ++ [EntryName.temp n]) =
        if p = parent then some (.file content FileTree.publicMode) else none := by
    obtain ⟨parent, content, hKept⟩ := hCustody.kept n hn
    exact ⟨parent, content, fun p => (h.spares hCustody hn hn').trans (hKept p)⟩
  have hLess {m : Nat} (hNumbers : numbers.Perm (m :: numbers')) : tree'.Custody numbers' :=
    ⟨(List.nodup_cons.mp (hNumbers.nodup_iff.mp hCustody.distinct)).2,
      fun n hn => hKept (hNumbers.mem_iff.mpr (List.mem_cons_of_mem _ hn)) hn⟩
  cases h with
  | keeps hNumbers =>
    exact ⟨hNumbers.nodup_iff.mpr hCustody.distinct,
      fun n hn => hKept (hNumbers.mem_iff.mp hn) hn⟩
  | discards hNumbers => exact hLess hNumbers
  | lands hNumbers hCommit => exact hLess hNumbers
  | stages hNumbers parent content =>
    refine ⟨hNumbers.nodup_iff.mpr (List.nodup_cons.mpr ⟨?_, hCustody.distinct⟩),
      fun n hn => ?_⟩
    · exact fun hFresh => ne_freshNumber hCustody hFresh rfl
    · rcases List.mem_cons.mp (hNumbers.mem_iff.mp hn) with rfl | hOld
      · refine ⟨parent, content, fun p => ?_⟩
        rw [FileTree.get?_put (by simp)]
        by_cases hp : p = parent
        · rw [if_pos (by rw [hp]), if_pos hp]
        · rw [if_neg fun hEq => hp (temp_inj hEq).1, if_neg hp, FileTree.get?, if_neg (by simp),
            (Keyed.get?_eq_none_iff _ _).mpr (FileTree.freshNumber_notMem p)]
      · exact hKept hOld hn

/-- Other files stay as they are, but for the one that has landed. -/
theorem get?_plain (h : Files numbers tree landed numbers' tree') (hp : isPlain p = true) :
    tree'.get? p = tree.get? p ∨
      ∃ destination, landed = some destination ∧ tree.landing destination = .ok p := by
  cases h with
  | keeps hNumbers => exact .inl rfl
  | stages hNumbers parent content => exact .inl (FileTree.get?_put_of_ne (plain_ne_temp hp))
  | @discards _ file hNumbers =>
    refine .inl ?_
    rw [← FileTree.get?_settled hp, StagedFile.discard_settled, FileTree.get?_settled hp]
  | lands hNumbers hCommit =>
    obtain ⟨parent, node, target, -, -, hLanding, rfl⟩ := StagedFile.commit_eq_ok hCommit
    by_cases hHere : p = target
    · exact .inr ⟨_, rfl, hHere ▸ hLanding⟩
    · exact .inl (by
        rw [FileTree.get?_put_of_ne hHere, FileTree.get?_erase_of_ne (plain_ne_temp hp)])

/-- Whatever a step of a run does to the tree, it changes files. -/
theorem changesFiles (h : Files numbers tree landed numbers' tree')
    (hCustody : tree.Custody numbers) :
    tree.ChangesFiles tree' := by
  cases h with
  | keeps hNumbers => exact .refl tree
  | stages hNumbers parent content =>
    refine .put (by simp) ?_ content FileTree.publicMode
    rw [FileTree.get?, if_neg (by simp),
      (Keyed.get?_eq_none_iff _ _).mpr (FileTree.freshNumber_notMem parent)]
    simp
  | @discards _ file hNumbers =>
    have hHeld : file.number ∈ numbers := hNumbers.mem_iff.mpr (List.mem_cons_self ..)
    unfold StagedFile.discard
    rw [StagedFile.place, FileTree.tempPlace_eq]
    cases tree.directoryPlace file.directory with
    | error reason => exact .refl tree
    | ok parent => exact .erase (hCustody.ne_directory hHeld)
  | @lands _ file _ hNumbers hCommit =>
    have hHeld : file.number ∈ numbers := hNumbers.mem_iff.mpr (List.mem_cons_self ..)
    obtain ⟨parent, node, target, -, hNode, hLanding, rfl⟩ := StagedFile.commit_eq_ok hCommit
    obtain ⟨parent', content, hKept⟩ := hCustody.kept _ hHeld
    obtain rfl : node = .file content FileTree.publicMode :=
      hCustody.eq_of_get? hHeld ((hKept parent').trans (if_pos rfl)) hNode
    have hErased : tree.ChangesFiles (tree.erase (parent ++ [EntryName.temp file.number])) :=
      .erase (hCustody.ne_directory hHeld)
    obtain ⟨-, hTarget, hNot⟩ := FileTree.landing_eq_ok hLanding
    exact hErased.trans (.put hTarget (fun h => hNot (hErased.directory_iff.mp h)) _ _)

/-- So a file that lands later lands where it would have before. -/
theorem landing (h : Files numbers tree landed numbers' tree') (hCustody : tree.Custody numbers)
    {destination : String} (hLanding : tree'.landing destination = .ok p) :
    tree.landing destination = .ok p :=
  (h.changesFiles hCustody).landing hLanding

end Files

end Run

end TopologyExporter
