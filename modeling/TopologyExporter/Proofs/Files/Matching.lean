import TopologyExporter.Proofs.Files.Workshop

/-!
# Workshops — what they amount to

`Workshop.Matches` sets a workshop against a ledger: without the temporary files the trees are the
same, and the temporary files are those of the staged files, one for each draft. Every step keeps it
that leaves the directories of the staged files in their places.

## Results

* `Workshop.Matches.forget`      — a staged file goes.
* `Workshop.Matches.settle`      — the tree changes beside the staged files.
* `Workshop.Matches.add`         — a staged file comes.
* `Workshop.Matches.step`        — a step keeps the match, with the same result on both sides.
* `Workshop.Matches.run`         — so does a whole history.
* `workshop_amounts_to_ledger`   — so a workshop amounts to its ledger at every moment.
* `commit_loses_temporary_file`  — it need not if a commit moves the directory of another file.
-/

namespace TopologyExporter

variable {κ : Type} [DecidableEq κ]

-- ---------------------------------------------------------------------------
-- A workshop and its ledger
-- ---------------------------------------------------------------------------

/-- Whether a staged file is for the destination of a draft, and its temporary file is in the
directory of that destination and holds what the draft notes. -/
structure StagedFile.Holds (file : StagedFile) (t : FileTree) (draft : Draft) : Prop where
  destination : file.destination = draft.destination
  directory   : file.directory = Path.directory draft.destination
  content     : ∃ place, file.place t = .ok place ∧
                  t.get? place = some (.file draft.content FileTree.publicMode)

/-- Whether a workshop amounts to a ledger: without the temporary files its tree is that of the
ledger, and the temporary files are those of the staged files, one for each draft. -/
structure Workshop.Matches (w : Workshop κ) (l : Ledger κ) : Prop where
  tree  : w.tree.settled = l.tree
  held  : ∀ id, Option.Rel (fun file draft => file.Holds w.tree draft)
            (w.staged.get? id) (l.drafts.get? id)
  owned : ∀ place node, isPlain place = false → w.tree.get? place = some node →
            ∃ id file, w.staged.get? id = some file ∧ file.place w.tree = .ok place
  apart : ∀ id id' file file', w.staged.get? id = some file → w.staged.get? id' = some file' →
            file.number = file'.number → id = id'

namespace StagedFile

variable {file : StagedFile} {t t' : FileTree} {place : Location} {draft : Draft}

theorem place_eq_ok (h : file.place t = .ok place) :
    ∃ parent, t.directoryPlace file.directory = .ok parent ∧
      place = parent ++ [EntryName.temp file.number] := by
  rw [StagedFile.place, FileTree.tempPlace_eq] at h
  cases hParent : t.directoryPlace file.directory with
  | error reason => simp [hParent, Except.map] at h
  | ok parent =>
    simp only [hParent, Except.map, Except.ok.injEq] at h
    exact ⟨parent, rfl, h.symm⟩

theorem place_congr (h : t'.directoryPlace file.directory = t.directoryPlace file.directory) :
    file.place t' = file.place t := by
  rw [StagedFile.place, StagedFile.place, FileTree.tempPlace_eq, FileTree.tempPlace_eq, h]

theorem place_not_isPlain (h : file.place t = .ok place) : isPlain place = false := by
  obtain ⟨parent, -, rfl⟩ := place_eq_ok h
  exact isPlain_append_temp parent file.number

/-- Temporary files at one place have one number. -/
theorem number_eq {file' : StagedFile} (h : file.place t = .ok place)
    (h' : file'.place t' = .ok place) : file.number = file'.number := by
  obtain ⟨parent, -, rfl⟩ := place_eq_ok h
  obtain ⟨parent', -, hSame⟩ := place_eq_ok h'
  simpa using (List.append_inj' hSame rfl).2

/-- A staged file still holds its draft in a tree where its directory is in its place and its
temporary file is as before. -/
theorem Holds.congr (h : file.Holds t draft)
    (hDirectory : t'.directoryPlace file.directory = t.directoryPlace file.directory)
    (hSame : ∀ place, file.place t = .ok place → t'.get? place = t.get? place) :
    file.Holds t' draft where
  destination := h.destination
  directory := h.directory
  content := by
    obtain ⟨place, hPlace, hContent⟩ := h.content
    exact ⟨place, (place_congr hDirectory).trans hPlace, (hSame place hPlace).trans hContent⟩

end StagedFile

namespace Workshop

variable {w w' : Workshop κ} {l : Ledger κ} {id : κ} {file : StagedFile}

theorem forget_of_none (h : w.staged.get? id = none) : w.forget id = w := by
  rw [forget, h]

theorem forget_of_some (h : w.staged.get? id = some file) :
    w.forget id = ⟨file.discard w.tree, w.staged.erase id⟩ := by
  rw [forget, h]

theorem get?_forget (id' : κ) :
    (w.forget id).staged.get? id' = if id' = id then none else w.staged.get? id' := by
  cases hStaged : w.staged.get? id with
  | none =>
    rw [forget_of_none hStaged]
    by_cases hId : id' = id
    · rw [if_pos hId, hId, hStaged]
    · rw [if_neg hId]
  | some file =>
    rw [forget_of_some hStaged]
    exact Keyed.get?_erase w.staged id id'

/-- Dropping leaves all but temporary files as they are. -/
@[simp] theorem forget_settled : (w.forget id).tree.settled = w.tree.settled := by
  cases hStaged : w.staged.get? id with
  | none => rw [forget_of_none hStaged]
  | some file => rw [forget_of_some hStaged, StagedFile.discard_settled]

theorem forget_directoryPlace (path : String) :
    (w.forget id).tree.directoryPlace path = w.tree.directoryPlace path := by
  rw [← FileTree.directoryPlace_settled, forget_settled, FileTree.directoryPlace_settled]

/-- Dropping leaves the temporary files of other numbers as they are. -/
theorem forget_get?_of_ne {other : StagedFile} {place : Location}
    (hPlace : other.place w.tree = .ok place)
    (hOther : ∀ file, w.staged.get? id = some file → file.number ≠ other.number) :
    (w.forget id).tree.get? place = w.tree.get? place := by
  cases hStaged : w.staged.get? id with
  | none => rw [forget_of_none hStaged]
  | some file =>
    rw [forget_of_some hStaged]
    cases hGone : file.place w.tree with
    | error reason => simp [StagedFile.discard, hGone]
    | ok gone =>
      rw [StagedFile.discard_eq hGone]
      apply FileTree.get?_erase_of_ne
      rintro rfl
      exact hOther file hStaged (StagedFile.number_eq hGone hPlace)

/-- What is there after dropping was there before, and was not dropped. -/
theorem of_forget_get? {place : Location} {node : Node} (hTemp : isPlain place = false)
    (h : (w.forget id).tree.get? place = some node) :
    w.tree.get? place = some node ∧
      ∀ file, w.staged.get? id = some file → file.place w.tree ≠ .ok place := by
  cases hStaged : w.staged.get? id with
  | none =>
    rw [forget_of_none hStaged] at h
    exact ⟨h, fun file hFile => by simp at hFile⟩
  | some file =>
    rw [forget_of_some hStaged] at h
    cases hGone : file.place w.tree with
    | error reason =>
      rw [StagedFile.discard, hGone] at h
      refine ⟨h, fun other hOther => ?_⟩
      rw [← Option.some.inj hOther, hGone]
      simp
    | ok gone =>
      rw [StagedFile.discard_eq hGone] at h
      have hNe : place ≠ gone := by
        rintro rfl
        have hNil : place ≠ [] := by
          rintro rfl
          simp at hTemp
        simp [FileTree.get?_erase_self hNil] at h
      rw [FileTree.get?_erase_of_ne hNe] at h
      refine ⟨h, fun other hOther => ?_⟩
      rw [← Option.some.inj hOther, hGone]
      simpa using Ne.symm hNe

/-- What dropping leaves at a place depends on what is there, and on where the directories are. -/
theorem forget_get?_congr {place : Location} (hStaged : w'.staged = w.staged)
    (hDirectories : ∀ path, w'.tree.directoryPlace path = w.tree.directoryPlace path)
    (hSame : w'.tree.get? place = w.tree.get? place) :
    (w'.forget id).tree.get? place = (w.forget id).tree.get? place := by
  cases hFile : w.staged.get? id with
  | none => rw [forget_of_none hFile, forget_of_none (hStaged ▸ hFile), hSame]
  | some file =>
    rw [forget_of_some hFile, forget_of_some (hStaged ▸ hFile)]
    have hPlace : file.place w'.tree = file.place w.tree := StagedFile.place_congr (hDirectories _)
    cases hGone : file.place w.tree with
    | error reason => simp [StagedFile.discard, hPlace, hGone, hSame]
    | ok gone =>
      rw [StagedFile.discard_eq (hPlace.trans hGone), StagedFile.discard_eq hGone]
      by_cases hHere : place = gone
      · obtain ⟨parent, -, rfl⟩ := StagedFile.place_eq_ok hGone
        rw [hHere, FileTree.get?_erase_self (by simp), FileTree.get?_erase_self (by simp)]
      · rw [FileTree.get?_erase_of_ne hHere, FileTree.get?_erase_of_ne hHere, hSame]

theorem forget_staged (hStaged : w'.staged = w.staged) :
    (w'.forget id).staged = (w.forget id).staged := by
  cases hFile : w.staged.get? id with
  | none => rw [forget_of_none hFile, forget_of_none (hStaged ▸ hFile), hStaged]
  | some file => rw [forget_of_some hFile, forget_of_some (hStaged ▸ hFile), hStaged]

namespace Matches

/-- A staged file whose draft is noted, and the other way round. -/
theorem exists_draft (h : w.Matches l) (hStaged : w.staged.get? id = some file) :
    ∃ draft, l.drafts.get? id = some draft ∧ file.Holds w.tree draft := by
  have hHeld := h.held id
  rw [hStaged] at hHeld
  cases hDraft : l.drafts.get? id with
  | none => simp [hDraft] at hHeld
  | some draft =>
    rw [hDraft, Option.rel_some_some] at hHeld
    exact ⟨draft, rfl, hHeld⟩

theorem drafts_eq_none (h : w.Matches l) (hStaged : w.staged.get? id = none) :
    l.drafts.get? id = none := by
  have hHeld := h.held id
  rw [hStaged] at hHeld
  cases hDraft : l.drafts.get? id with
  | none => rfl
  | some draft => simp [hDraft] at hHeld

/-- **A staged file goes**: its temporary file is removed, and no other. -/
theorem forget (h : w.Matches l) (id : κ) : (w.forget id).Matches (l.forget id) where
  tree := by rw [forget_settled, h.tree, Ledger.forget]
  held id' := by
    rw [get?_forget, Ledger.forget, Keyed.get?_erase]
    by_cases hId : id' = id
    · rw [if_pos hId, if_pos hId]
      exact .none
    · rw [if_neg hId, if_neg hId]
      cases hOther : w.staged.get? id' with
      | none =>
        rw [h.drafts_eq_none hOther]
        exact .none
      | some other =>
        obtain ⟨draft, hDraft, hHolds⟩ := h.exists_draft hOther
        rw [hDraft]
        refine .some (hHolds.congr (forget_directoryPlace _) fun place hPlace => ?_)
        exact forget_get?_of_ne hPlace fun file hFile hNumber =>
          hId (h.apart id' id other file hOther hFile hNumber.symm)
  owned place node hTemp hNode := by
    obtain ⟨hBefore, hNot⟩ := of_forget_get? hTemp hNode
    obtain ⟨id', file, hFile, hPlace⟩ := h.owned place node hTemp hBefore
    have hId : id' ≠ id := by
      rintro rfl
      exact hNot file hFile hPlace
    refine ⟨id', file, ?_, ?_⟩
    · rw [get?_forget, if_neg hId, hFile]
    · rw [StagedFile.place_congr (forget_directoryPlace _), hPlace]
  apart id₁ id₂ file₁ file₂ h₁ h₂ hNumber := by
    rw [get?_forget] at h₁ h₂
    split at h₁
    · simp at h₁
    · split at h₂
      · simp at h₂
      · exact h.apart id₁ id₂ file₁ file₂ h₁ h₂ hNumber

/-- **The tree changes beside the staged files**, and leaves their directories in their places. -/
theorem settle (h : w.Matches l) {tree : FileTree}
    (hTemporaries : tree.temporaries = w.tree.temporaries)
    (hDirectories : ∀ id file, w.staged.get? id = some file →
      tree.directoryPlace file.directory = w.tree.directoryPlace file.directory) :
    ({ w with tree } : Workshop κ).Matches { l with tree := tree.settled } where
  tree := rfl
  held id := by
    show Option.Rel _ (w.staged.get? id) (l.drafts.get? id)
    cases hStaged : w.staged.get? id with
    | none =>
      rw [h.drafts_eq_none hStaged]
      exact .none
    | some file =>
      obtain ⟨draft, hDraft, hHolds⟩ := h.exists_draft hStaged
      rw [hDraft]
      refine .some (hHolds.congr (hDirectories id file hStaged) fun place hPlace => ?_)
      have hTemp := StagedFile.place_not_isPlain hPlace
      rw [← FileTree.get?_temporaries hTemp, hTemporaries, FileTree.get?_temporaries hTemp]
  owned place node hTemp hNode := by
    rw [← FileTree.get?_temporaries hTemp, hTemporaries, FileTree.get?_temporaries hTemp] at hNode
    obtain ⟨id, file, hFile, hPlace⟩ := h.owned place node hTemp hNode
    exact ⟨id, file, hFile, (StagedFile.place_congr (hDirectories id file hFile)).trans hPlace⟩
  apart := h.apart

/-- A file or a link is put where a path leads. -/
theorem land (h : w.Matches l) {target : Location} (hPlain : isPlain target = true) (node : Node)
    (hDirectories : ∀ id file, w.staged.get? id = some file →
      (w.tree.put target node).directoryPlace file.directory =
        w.tree.directoryPlace file.directory) :
    ({ w with tree := w.tree.put target node } : Workshop κ).Matches
      { l with tree := l.tree.put target node } := by
  have hSettle := h.settle (FileTree.temporaries_put hPlain) hDirectories
  rwa [FileTree.settled_put hPlain, h.tree] at hSettle

/-- **A staged file comes**: its temporary file is new in the directory of its destination, and all
others are as before. -/
theorem add (h : w.Matches l) (hNew : w.staged.get? id = none) {tree : FileTree}
    {parent : Location} {destination : String} {content : Bytes} {number : Nat}
    (hSettled : tree.settled = w.tree.settled)
    (hParent : w.tree.directoryPlace (Path.directory destination) = .ok parent)
    (hHere : tree.get? (parent ++ [EntryName.temp number]) =
      some (.file content FileTree.publicMode))
    (hElse : ∀ place, isPlain place = false → place ≠ parent ++ [EntryName.temp number] →
      tree.get? place = w.tree.get? place)
    (hNumber : ∀ id file, w.staged.get? id = some file → file.number ≠ number) :
    (⟨tree, w.staged.put id ⟨Path.directory destination, number, destination⟩⟩ :
      Workshop κ).Matches { l with drafts := l.drafts.put id ⟨destination, content⟩ } := by
  have hDirectories (path : String) : tree.directoryPlace path = w.tree.directoryPlace path := by
    rw [← FileTree.directoryPlace_settled, hSettled, FileTree.directoryPlace_settled]
  have hPlaceNew : StagedFile.place ⟨Path.directory destination, number, destination⟩ tree =
      .ok (parent ++ [EntryName.temp number]) := by
    rw [StagedFile.place, FileTree.tempPlace_eq, hDirectories, hParent]
    rfl
  constructor
  case tree => exact hSettled.trans h.tree
  case held =>
    intro id'
    rw [Keyed.get?_put, Keyed.get?_put]
    by_cases hId : id' = id
    · rw [if_pos hId, if_pos hId]
      exact .some ⟨rfl, rfl, _, hPlaceNew, hHere⟩
    · rw [if_neg hId, if_neg hId]
      cases hOther : w.staged.get? id' with
      | none =>
        rw [h.drafts_eq_none hOther]
        exact .none
      | some other =>
        obtain ⟨draft, hDraft, hHolds⟩ := h.exists_draft hOther
        rw [hDraft]
        refine .some (hHolds.congr (hDirectories _) fun place hPlace => ?_)
        refine hElse place (StagedFile.place_not_isPlain hPlace) ?_
        rintro rfl
        exact hNumber id' other hOther (StagedFile.number_eq hPlace hPlaceNew)
  case owned =>
    intro place node hTemp hNode
    by_cases hPlace : place = parent ++ [EntryName.temp number]
    · refine ⟨id, _, ?_, hPlace ▸ hPlaceNew⟩
      rw [Keyed.get?_put, if_pos rfl]
    · rw [hElse place hTemp hPlace] at hNode
      obtain ⟨id', file, hFile, hPlace'⟩ := h.owned place node hTemp hNode
      have hId : id' ≠ id := by
        rintro rfl
        simp [hNew] at hFile
      refine ⟨id', file, ?_, (StagedFile.place_congr (hDirectories _)).trans hPlace'⟩
      rw [Keyed.get?_put, if_neg hId, hFile]
  case apart =>
    intro id₁ id₂ file₁ file₂ h₁ h₂ hSame
    rw [Keyed.get?_put] at h₁ h₂
    split at h₁
    case isTrue hId₁ =>
      obtain rfl := Option.some.inj h₁
      split at h₂
      case isTrue hId₂ => rw [hId₁, hId₂]
      case isFalse => exact absurd hSame.symm (hNumber id₂ file₂ h₂)
    case isFalse =>
      split at h₂
      case isTrue =>
        obtain rfl := Option.some.inj h₂
        exact absurd hSame (hNumber id₁ file₁ h₁)
      case isFalse => exact h.apart id₁ id₂ file₁ file₂ h₁ h₂ hSame

/-- A fresh number is on no staged file. -/
theorem number_ne_fresh (h : w.Matches l) (hStaged : w.staged.get? id = some file) :
    file.number ≠ w.tree.freshNumber := by
  intro hNumber
  obtain ⟨draft, -, -, -, place, hPlace, hContent⟩ := h.exists_draft hStaged
  obtain ⟨parent, -, rfl⟩ := StagedFile.place_eq_ok hPlace
  have hMem := FileTree.mem_keys_of_get? (by simp) hContent
  rw [hNumber] at hMem
  exact FileTree.freshNumber_notMem parent hMem

-- ---------------------------------------------------------------------------
-- One step
-- ---------------------------------------------------------------------------

/-- Staging comes to the same in both, and the match is kept. -/
theorem stage (h : w.Matches l) (id : κ) (destination : String) (attempt : WriteAttempt) :
    (w.step (.stage id destination attempt)).1 = (l.step (.stage id destination attempt)).1 ∧
    (w.step (.stage id destination attempt)).2.Matches
      (l.step (.stage id destination attempt)).2 := by
  have hSame : l.tree.staging destination attempt.failure =
      w.tree.staging destination attempt.failure := by
    rw [← h.tree, FileTree.staging_settled]
  simp only [Workshop.step, Ledger.step, FileTree.stage_eq, hSame]
  cases hStaging : w.tree.staging destination attempt.failure with
  | error reason => exact ⟨rfl, h⟩
  | ok parent =>
    refine ⟨rfl, ?_⟩
    have hParent := (FileTree.staging_eq_ok_iff.mp hStaging).1
    dsimp only
    generalize hWith : (⟨w.tree.put (parent ++ [EntryName.temp w.tree.freshNumber])
      (.file attempt.content FileTree.publicMode), w.staged⟩ : Workshop κ) = w₁
    obtain ⟨hTree, hStaged⟩ : w₁.tree =
        w.tree.put (parent ++ [EntryName.temp w.tree.freshNumber])
        (.file attempt.content FileTree.publicMode) ∧ w₁.staged = w.staged := by
      rw [← hWith]
      exact ⟨rfl, rfl⟩
    have hSettled : w₁.tree.settled = w.tree.settled := by
      rw [hTree, FileTree.settled_put_temp]
    have hDirectories (path : String) :
        w₁.tree.directoryPlace path = w.tree.directoryPlace path := by
      rw [← FileTree.directoryPlace_settled, hSettled, FileTree.directoryPlace_settled]
    have hPlace : StagedFile.place ⟨Path.directory destination, w.tree.freshNumber, destination⟩
        w₁.tree = .ok (parent ++ [EntryName.temp w.tree.freshNumber]) := by
      rw [StagedFile.place, FileTree.tempPlace_eq, hDirectories, hParent]
      rfl
    rw [forget_staged hStaged]
    apply (h.forget id).add
    · rw [get?_forget, if_pos rfl]
    · rw [forget_settled, forget_settled, hSettled]
    · rw [forget_directoryPlace, hParent]
    · -- the one of the same name that is dropped has another number
      rw [forget_get?_of_ne hPlace fun file hFile => h.number_ne_fresh (hStaged ▸ hFile), hTree,
        FileTree.get?_put (by simp), if_pos rfl]
    · intro place _ hNe
      refine forget_get?_congr hStaged hDirectories ?_
      rw [hTree, FileTree.get?_put_of_ne hNe]
    · intro id' file hFile
      rw [get?_forget] at hFile
      split at hFile
      · simp at hFile
      · exact h.number_ne_fresh hFile

/-- A commit comes to the same in both. The match is kept if the directories of the other staged
files are. -/
theorem commit (h : w.Matches l) (id : κ) :
    (w.step (.commit id)).1 = (l.step (.commit id)).1 ∧
    (w.KeepsDirectories (w.step (.commit id)).2 →
      (w.step (.commit id)).2.Matches (l.step (.commit id)).2) := by
  cases hStaged : w.staged.get? id with
  | none => simp [Workshop.step, Ledger.step, hStaged, h.drafts_eq_none hStaged, h]
  | some file =>
    obtain ⟨draft, hDraft, hDestination, -, place, hPlace, hContent⟩ := h.exists_draft hStaged
    have hSame : l.tree.landing draft.destination = w.tree.landing file.destination := by
      rw [← h.tree, FileTree.landing_settled, hDestination]
    have hForget : w.forget id = ⟨w.tree.erase place, w.staged.erase id⟩ := by
      rw [forget_of_some hStaged, StagedFile.discard_eq hPlace]
    have hRest := h.forget id
    simp only [Workshop.step, Ledger.step, hStaged, hDraft, hSame,
      StagedFile.commit_eq hPlace hContent]
    cases hLanding : w.tree.landing file.destination with
    | error reason =>
      refine ⟨by rw [← hDestination]; rfl, fun _ => ?_⟩
      rwa [hForget] at hRest
    | ok target =>
      refine ⟨rfl, fun hKeeps => ?_⟩
      have hPlain := FileTree.entryPlace_isPlain (FileTree.landing_eq_ok hLanding).1
      rw [hForget] at hRest
      refine hRest.land hPlain _ fun id' other hOther => ?_
      have hBefore : w.staged.get? id' = some other := by
        rw [Keyed.get?_erase] at hOther
        split at hOther
        · simp at hOther
        · exact hOther
      have hErase := @forget_directoryPlace κ _ w id other.directory
      rw [hForget] at hErase
      exact (hKeeps id' other hBefore hOther).trans hErase.symm

theorem drop (h : w.Matches l) (id : κ) :
    (w.step (.drop id)).1 = (l.step (.drop id)).1 ∧
    (w.step (.drop id)).2.Matches (l.step (.drop id)).2 := by
  cases hStaged : w.staged.get? id with
  | none => simp [Workshop.step, Ledger.step, hStaged, h.drafts_eq_none hStaged, h]
  | some file =>
    obtain ⟨draft, hDraft, -⟩ := h.exists_draft hStaged
    simp only [Workshop.step, Ledger.step, hStaged, hDraft, true_and]
    exact h.forget id

theorem replace (h : w.Matches l) (destination : String) (attempt : WriteAttempt) :
    (w.step (.replace destination attempt)).1 = (l.replace destination attempt).1 ∧
    (w.KeepsDirectories (w.step (.replace destination attempt)).2 →
      (w.step (.replace destination attempt)).2.Matches (l.replace destination attempt).2) := by
  have hSame : l.tree.replacing destination attempt.failure =
      w.tree.replacing destination attempt.failure := by
    rw [← h.tree, FileTree.replacing_settled]
  simp only [Workshop.step, Ledger.replace, FileTree.writeAtomically_eq, hSame]
  cases hReplacing : w.tree.replacing destination attempt.failure with
  | error reason => exact ⟨rfl, fun _ => h⟩
  | ok target =>
    have hPlain := FileTree.entryPlace_isPlain (FileTree.replacing_eq_ok hReplacing).1
    exact ⟨rfl, fun hKeeps => h.land hPlain _ fun id file hFile => hKeeps id file hFile hFile⟩

theorem outside (h : w.Matches l) (change : OutsideChange) :
    (w.step (.outside change)).1 = (l.step (.outside change)).1 ∧
    (w.KeepsDirectories (w.step (.outside change)).2 →
      (w.step (.outside change)).2.Matches (l.step (.outside change)).2) := by
  have hSame : change.apply l.tree = (change.apply w.tree).map FileTree.settled := by
    rw [← h.tree, change.passesBy.settled]
  simp only [Workshop.step, Ledger.step, hSame]
  cases hApply : change.apply w.tree with
  | error reason => exact ⟨rfl, fun _ => h⟩
  | ok tree =>
    refine ⟨rfl, fun hKeeps => ?_⟩
    exact h.settle (change.passesBy.temporaries w.tree tree hApply) fun id file hFile =>
      hKeeps id file hFile hFile

/-- **One step comes to the same in a workshop and its ledger**, and they still match if the
directories of the staged files are kept. -/
theorem step (h : w.Matches l) (step : FileStep κ) :
    (w.step step).1 = (l.step step).1 ∧
    (w.KeepsDirectories (w.step step).2 → (w.step step).2.Matches (l.step step).2) := by
  cases step with
  | stage id destination attempt =>
    exact ⟨(h.stage id destination attempt).1, fun _ => (h.stage id destination attempt).2⟩
  | commit id => exact h.commit id
  | drop id => exact ⟨(h.drop id).1, fun _ => (h.drop id).2⟩
  | replace destination attempt => exact h.replace destination attempt
  | persist destination content => exact h.replace destination ⟨content, none⟩
  | outside change => exact h.outside change

/-- **A whole history keeps the match**, by induction on its steps. -/
theorem run {steps : List (FileStep κ)} (h : w.Matches l)
    (hKeeps : w.KeepsAlong (fun _ => true) steps) : (w.run steps).Matches (l.run steps) := by
  induction steps generalizing w l with
  | nil => exact h
  | cons step rest ih => exact ih ((h.step step).2 (hKeeps.1 rfl)) hKeeps.2

/-- A tree without temporary files, with nothing staged, is its own ledger. -/
theorem start {tree : FileTree} (hClean : tree.settled = tree) :
    (Workshop.fresh tree : Workshop κ).Matches (.fresh tree) where
  tree := hClean
  held id := .none
  owned place node hTemp hNode := by
    change tree.get? place = some node at hNode
    rw [← hClean, FileTree.get?_settled_temp hTemp] at hNode
    simp at hNode
  apart id id' file file' hFile := by simp [Workshop.fresh, Keyed.get?, Keyed.empty] at hFile

end Matches

end Workshop

-- ---------------------------------------------------------------------------
-- Whole histories
-- ---------------------------------------------------------------------------

/-- **A workshop amounts to its ledger.** After any history of staging, committing, dropping,
replacing and outside changes, of any files side by side, that leaves the directories of the staged
files in their places:

* the tree without its temporary files is that of the ledger, and the temporary files are one for
  each staged file, in the directory of its destination and with all its bytes;
* any next step comes to the same in both;
* a commit that succeeds makes the place that its destination names a file with the staged bytes
  that everyone may read, and changes nothing else;
* an error names the destination that its step is about. -/
theorem workshop_amounts_to_ledger {tree : FileTree} (hClean : tree.settled = tree)
    (steps : List (FileStep κ))
    (hKeeps : (Workshop.fresh tree).KeepsAlong (fun _ => true) steps) :
    ((Workshop.fresh tree).run steps).Matches ((Ledger.fresh tree).run steps) ∧
    (∀ next, (((Workshop.fresh tree).run steps).step next).1 =
      (((Ledger.fresh tree).run steps).step next).1) ∧
    (∀ id, (((Ledger.fresh tree).run steps).step (.commit id)).1 = .done →
      ∃ draft target, ((Ledger.fresh tree).run steps).drafts.get? id = some draft ∧
        ((Ledger.fresh tree).run steps).tree.entryPlace draft.destination = .ok target ∧
        ((Ledger.fresh tree).run steps).tree.get? target ≠ some .directory ∧
        (((Ledger.fresh tree).run steps).step (.commit id)).2.tree =
          ((Ledger.fresh tree).run steps).tree.put target
            (.file draft.content FileTree.publicMode)) ∧
    ∀ next error, (((Workshop.fresh tree).run steps).step next).1 = .failed error →
      ∃ destination reason,
        ((Workshop.fresh tree).run steps).destination? next = some destination ∧
        error = .persistence destination reason := by
  have hMatches := (Workshop.Matches.start hClean).run hKeeps
  refine ⟨hMatches, fun next => (hMatches.step next).1, ?_, ?_⟩
  · exact fun id hDone => Ledger.commit_done hDone
  · exact fun next error hFailed => Workshop.failed_names_destination hFailed

/-- Two files are staged for one destination; the second is committed and the first dropped. -/
private def rivals : List (FileStep String) :=
  [.stage "old" "f" ⟨[111], none⟩, .stage "new" "f" ⟨[110], none⟩, .commit "new",
    .outside (.write "g" [103]), .drop "old"]

/-- A workshop whose files are staged where paths start keeps their directories. -/
private theorem keepsHere {w w' : Workshop String}
    (hHere : w.staged.entries.all (·.2.directory = ".") = true) : w.KeepsDirectories w' := by
  intro id file hFile _
  rw [Keyed.get?_eq_some_iff] at hFile
  have hDirectory : file.directory = "." := by simpa using List.all_eq_true.mp hHere _ hFile
  have hPlace (t : FileTree) : t.directoryPlace "." = .ok [] := by rfl
  rw [hDirectory, hPlace, hPlace]

private theorem rivals_keep :
    (Workshop.fresh .empty).KeepsAlong (fun _ => true) rivals :=
  ⟨fun _ => keepsHere (by decide +kernel), fun _ => keepsHere (by decide +kernel),
    fun _ => keepsHere (by decide +kernel), fun _ => keepsHere (by decide +kernel),
    fun _ => keepsHere (by decide +kernel), trivial⟩

/-- Of two files staged for one destination the committed one is there, and nothing of the other. -/
theorem rivals_amount_to_ledger :
    FileTree.empty.settled = FileTree.empty ∧
    (Workshop.fresh .empty).KeepsAlong (fun _ => true) rivals ∧
    ((Workshop.fresh .empty).run rivals).tree.settled =
      ⟨⟨[([.given "f"], .file [110] 0o644), ([.given "g"], .file [103] 0o644)],
        by simp⟩⟩ := by
  refine ⟨rfl, rivals_keep, ?_⟩
  rw [(workshop_amounts_to_ledger rfl rivals rivals_keep).1.tree]
  rfl

/-- A file is staged behind a link to its directory, and then the link is replaced by a file. -/
private def detour : List (FileStep String) :=
  [.outside (.makeDirectories "e"), .outside (.link "d" "e"), .stage "1" "d/f" ⟨[120], none⟩,
    .persist "d" [121], .drop "1"]

/-- **A commit can lose a temporary file**: outside changes that keep the directories of the staged
files are not enough. Replacing a link moves what is staged behind it out of reach. -/
theorem commit_loses_temporary_file :
    ¬ ∀ (tree : FileTree) (steps : List (FileStep String)), tree.settled = tree →
        (Workshop.fresh tree).KeepsAlong FileStep.isOutside steps →
        ((Workshop.fresh tree).run steps).Matches ((Ledger.fresh tree).run steps) := by
  intro h
  have hKeeps : (Workshop.fresh .empty).KeepsAlong FileStep.isOutside detour :=
    ⟨fun _ => keepsHere (by decide +kernel), fun _ => keepsHere (by decide +kernel),
      fun h => absurd h (by decide), fun h => absurd h (by decide),
      fun h => absurd h (by decide), trivial⟩
  have hNone : ((Workshop.fresh .empty).run detour).staged.entries = [] := by decide +kernel
  have hLeft : ((Workshop.fresh .empty).run detour).tree.get? [.given "e", .temp 1] =
      some (.file [120] FileTree.publicMode) := by decide +kernel
  obtain ⟨id, file, hFile, -⟩ := (h _ _ rfl hKeeps).owned _ _ (by decide) hLeft
  rw [Keyed.get?_eq_some_iff, hNone] at hFile
  simp at hFile

end TopologyExporter
