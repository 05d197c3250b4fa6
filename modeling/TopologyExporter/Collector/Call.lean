import TopologyExporter.Files.Staged
import TopologyExporter.Metric.Family

/-!
# Calls of collectors

What one call of a collector does, as a list of steps and an ending. The error of a step ends the
call. `Call.perform` is what a call does when it is alone and whatever it sends is received at once.
-/

namespace TopologyExporter

/-- A step of a call. -/
inductive CallStep
  /-- Lets time pass, in milliseconds. -/
  | pause (time : Nat)
  /-- Sends a family; needs someone who receives it. -/
  | send (family : Family)
  /-- Replaces a file atomically. -/
  | replace (destination : String) (content : Bytes)
deriving Repr, DecidableEq, Inhabited

/-- How a call ends after its last step. -/
inductive Ending
  /-- It returns, perhaps with an error. -/
  | returns (error : Option CollectorError)
  | panics
  /-- It never ends. -/
  | hangs
deriving Repr, DecidableEq, Inhabited

/-- What a call does. -/
structure Call where
  steps : List CallStep
  ending : Ending
deriving Repr, DecidableEq, Inhabited

/-- What came of a call that was alone: how it ended, what it sent, and the files after it. -/
structure Performance where
  ending : Ending
  sent : List Family
  tree : FileTree
deriving Repr, DecidableEq, Inhabited

/-- Performs the steps of a call that is alone. -/
def performSteps (isOpen : Bool) (ending : Ending) (tree : FileTree) : List CallStep → Performance
  | [] => ⟨ending, [], tree⟩
  | .pause _ :: rest => performSteps isOpen ending tree rest
  | .send family :: rest =>
    if isOpen then
      let p := performSteps isOpen ending tree rest
      { p with sent := family :: p.sent }
    -- the steps after it are never made
    else ⟨.returns (some .sinkClosed), [], tree⟩
  | .replace destination content :: rest =>
    match tree.persistAtomically destination content with
    | (.ok (), tree) => performSteps isOpen ending tree rest
    | (.error e, tree) => ⟨.returns (some e), [], tree⟩

/-- Performs a call that is alone; `isOpen` says whether what it sends is received. -/
def Call.perform (c : Call) (isOpen : Bool) (tree : FileTree) : Performance :=
  performSteps isOpen c.ending tree c.steps

end TopologyExporter
