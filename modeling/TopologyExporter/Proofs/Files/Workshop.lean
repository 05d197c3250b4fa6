import TopologyExporter.Proofs.Files.Outside

/-!
# Workshops — staged files side by side

Any number of staged files wait side by side, are committed or dropped in any order, and others
change the tree in between. A **ledger** is what such a workshop should amount to: it has no
temporary files, but notes for each staged file where it goes and what it holds. Of all that is done
with staged files, only a commit that succeeds changes its tree.

## Results

* `Workshop.step`, `Ledger.step`      — one step of each.
* `Workshop.KeepsAlong`               — histories that leave the directories of staged files in
  place.
* `Workshop.failed_names_destination` — the error of a failed step names what the step is about.
* `Ledger.commit_done`                — what a commit that succeeds does.
-/

namespace TopologyExporter

-- ---------------------------------------------------------------------------
-- Steps
-- ---------------------------------------------------------------------------

/-- A step of a history. Staged files have names of their own, of any kind. -/
inductive FileStep (κ : Type)
  /-- A file is staged; one of the same name is dropped for it. -/
  | stage (id : κ) (destination : String) (attempt : WriteAttempt)
  | commit (id : κ)
  | drop (id : κ)
  /-- A file is replaced by what a writer produces. -/
  | replace (destination : String) (attempt : WriteAttempt)
  /-- A file is replaced by a content. -/
  | persist (destination : String) (content : Bytes)
  | outside (change : OutsideChange)
deriving Repr, DecidableEq

/-- Whether a step is an outside change. -/
def FileStep.isOutside {κ : Type} : FileStep κ → Bool
  | outside _ => true
  | _ => false

/-- How a step ends. -/
inductive StepResult
  | done
  | failed (error : CollectorError)
  /-- An outside change was refused. -/
  | refused (reason : FileError)
  /-- There is no staged file of that name. -/
  | notStaged
deriving Repr, DecidableEq

/-- The result of an operation of the collectors. -/
def StepResult.of : Except CollectorError Unit → StepResult
  | .ok () => done
  | .error error => failed error

variable {κ : Type} [DecidableEq κ]

-- ---------------------------------------------------------------------------
-- Workshops
-- ---------------------------------------------------------------------------

/-- A tree with the staged files that wait. -/
structure Workshop (κ : Type) where
  tree : FileTree
  staged : Keyed κ StagedFile

namespace Workshop

/-- A workshop with nothing staged. -/
def fresh (tree : FileTree) : Workshop κ := ⟨tree, .empty⟩

/-- Drops a staged file, if there is one of that name. -/
def forget (w : Workshop κ) (id : κ) : Workshop κ :=
  match w.staged.get? id with
  | none => w
  | some file => ⟨file.discard w.tree, w.staged.erase id⟩

/-- Makes a step. -/
def step (w : Workshop κ) : FileStep κ → StepResult × Workshop κ
  | .stage id destination attempt =>
    match w.tree.stage destination attempt with
    | .error error => (.failed error, w)
    | .ok (file, tree) =>
      let rest := ({ w with tree } : Workshop κ).forget id
      (.done, { rest with staged := rest.staged.put id file })
  | .commit id =>
    match w.staged.get? id with
    | none => (.notStaged, w)
    | some file =>
      let (result, tree) := file.commit w.tree
      (.of result, ⟨tree, w.staged.erase id⟩)
  | .drop id =>
    match w.staged.get? id with
    | none => (.notStaged, w)
    | some _ => (.done, w.forget id)
  | .replace destination attempt =>
    let (result, tree) := w.tree.writeAtomically destination attempt
    (.of result, { w with tree })
  | .persist destination content =>
    let (result, tree) := w.tree.persistAtomically destination content
    (.of result, { w with tree })
  | .outside change =>
    match change.apply w.tree with
    | .error reason => (.refused reason, w)
    | .ok tree => (.done, { w with tree })

/-- The workshop after some steps. -/
def run (w : Workshop κ) (steps : List (FileStep κ)) : Workshop κ :=
  steps.foldl (fun w step => (w.step step).2) w

/-- The destination that a step is about. -/
def destination? (w : Workshop κ) : FileStep κ → Option String
  | .stage _ destination _ => some destination
  | .commit id => (w.staged.get? id).map StagedFile.destination
  | .replace destination _ => some destination
  | .persist destination _ => some destination
  | _ => none

/-- Whether the directories of all files that are staged before and after are in the same places. -/
def KeepsDirectories (w w' : Workshop κ) : Prop :=
  ∀ id file, w.staged.get? id = some file → w'.staged.get? id = some file →
    w'.tree.directoryPlace file.directory = w.tree.directoryPlace file.directory

/-- Whether those steps of a history that are concerned keep the directories of the staged files. -/
def KeepsAlong (concerned : FileStep κ → Bool) (w : Workshop κ) : List (FileStep κ) → Prop
  | [] => True
  | step :: rest =>
    (concerned step = true → w.KeepsDirectories (w.step step).2) ∧
      (w.step step).2.KeepsAlong concerned rest

end Workshop

-- ---------------------------------------------------------------------------
-- Ledgers
-- ---------------------------------------------------------------------------

/-- What is noted of a staged file: where it goes and what it holds. -/
structure Draft where
  destination : String
  content : Bytes
deriving Repr, DecidableEq

/-- A tree without temporary files, and the drafts that wait. -/
structure Ledger (κ : Type) where
  tree : FileTree
  drafts : Keyed κ Draft

namespace Ledger

/-- A ledger without drafts. -/
def fresh (tree : FileTree) : Ledger κ := ⟨tree, .empty⟩

/-- Drops a draft, if there is one of that name. -/
def forget (l : Ledger κ) (id : κ) : Ledger κ := { l with drafts := l.drafts.erase id }

/-- Replaces a file with what a writer produces. -/
def replace (l : Ledger κ) (destination : String) (attempt : WriteAttempt) :
    StepResult × Ledger κ :=
  match l.tree.replacing destination attempt.failure with
  | .error reason => (.failed (.persistence destination reason), l)
  | .ok target =>
    (.done, { l with tree := l.tree.put target (.file attempt.content FileTree.publicMode) })

/-- Makes a step. The tree changes by outside changes, and where a file lands. -/
def step (l : Ledger κ) : FileStep κ → StepResult × Ledger κ
  | .stage id destination attempt =>
    match l.tree.staging destination attempt.failure with
    | .error reason => (.failed (.persistence destination reason), l)
    | .ok _ =>
      let rest := l.forget id
      (.done, { rest with drafts := rest.drafts.put id ⟨destination, attempt.content⟩ })
  | .commit id =>
    match l.drafts.get? id with
    | none => (.notStaged, l)
    | some draft =>
      match l.tree.landing draft.destination with
      | .error reason => (.failed (.persistence draft.destination reason), l.forget id)
      | .ok target =>
        (.done, { l.forget id with
          tree := l.tree.put target (.file draft.content FileTree.publicMode) })
  | .drop id =>
    match l.drafts.get? id with
    | none => (.notStaged, l)
    | some _ => (.done, l.forget id)
  | .replace destination attempt => l.replace destination attempt
  | .persist destination content => l.replace destination ⟨content, none⟩
  | .outside change =>
    match change.apply l.tree with
    | .error reason => (.refused reason, l)
    | .ok tree => (.done, { l with tree })

/-- The ledger after some steps. -/
def run (l : Ledger κ) (steps : List (FileStep κ)) : Ledger κ :=
  steps.foldl (fun l step => (l.step step).2) l

end Ledger

-- ---------------------------------------------------------------------------
-- How steps end
-- ---------------------------------------------------------------------------

/-- The error of a failed step says that the destination the step is about could not be replaced. -/
theorem Workshop.failed_names_destination {w : Workshop κ} {step : FileStep κ}
    {error : CollectorError} (h : (w.step step).1 = .failed error) :
    ∃ destination reason, w.destination? step = some destination ∧
      error = .persistence destination reason := by
  have hReplace (destination : String) (attempt : WriteAttempt)
      (hFailed : StepResult.of (w.tree.writeAtomically destination attempt).1 = .failed error) :
      ∃ reason, error = .persistence destination reason := by
    rw [FileTree.writeAtomically_eq] at hFailed
    split at hFailed
    · simp [StepResult.of] at hFailed
    · exact ⟨_, (StepResult.failed.inj hFailed).symm⟩
  cases step with
  | stage id destination attempt =>
    rw [Workshop.step] at h
    split at h
    case h_1 hStage =>
      obtain ⟨reason, hReason⟩ := FileTree.stage_error hStage
      exact ⟨destination, reason, rfl, (StepResult.failed.inj h).symm.trans hReason⟩
    case h_2 => simp at h
  | commit id =>
    rw [Workshop.step] at h
    split at h
    case h_1 => simp at h
    case h_2 file hStaged =>
      cases hCommit : file.commit w.tree with
      | mk result tree =>
        simp only [hCommit] at h
        cases result with
        | ok _ => simp [StepResult.of] at h
        | error reason =>
          obtain rfl := StepResult.failed.inj h
          obtain ⟨reason, rfl⟩ := StagedFile.commit_error hCommit
          exact ⟨_, reason, by simp [destination?, hStaged], rfl⟩
  | drop id =>
    rw [Workshop.step] at h
    split at h <;> simp at h
  | replace destination attempt =>
    obtain ⟨reason, rfl⟩ := hReplace destination attempt h
    exact ⟨destination, reason, rfl, rfl⟩
  | persist destination content =>
    obtain ⟨reason, rfl⟩ := hReplace destination ⟨content, none⟩ h
    exact ⟨destination, reason, rfl, rfl⟩
  | outside change =>
    rw [Workshop.step] at h
    split at h <;> simp at h

/-- **A commit that succeeds** makes the place that its destination names a file with exactly the
bytes of the draft, that everyone may read. What was there is replaced: a file, or a link itself. -/
theorem Ledger.commit_done {l : Ledger κ} {id : κ} (h : (l.step (.commit id)).1 = .done) :
    ∃ draft target, l.drafts.get? id = some draft ∧
      l.tree.entryPlace draft.destination = .ok target ∧
      l.tree.get? target ≠ some .directory ∧
      (l.step (.commit id)).2.tree =
        l.tree.put target (.file draft.content FileTree.publicMode) := by
  cases hDraft : l.drafts.get? id with
  | none => simp [Ledger.step, hDraft] at h
  | some draft =>
    cases hLanding : l.tree.landing draft.destination with
    | error reason => simp [Ledger.step, hDraft, hLanding] at h
    | ok target =>
      obtain ⟨hEntry, -, hDirectory⟩ := FileTree.landing_eq_ok hLanding
      exact ⟨draft, target, rfl, hEntry, hDirectory, by simp [Ledger.step, hDraft, hLanding]⟩

end TopologyExporter
