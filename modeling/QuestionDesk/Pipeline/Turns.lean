import QuestionDesk.Keyed

/-!
# Turns

Runs with the same query take turns. Each query that is being worked on has a line of runs; the
first one has its turn and the others wait behind it, first come, first served. A line that
nobody stands in is gone.
-/
namespace QuestionDesk.Pipeline

/-- Who carries a run out. -/
inductive Runner where
  /-- A worker of the board. -/
  | worker (index : Nat)
  /-- Somebody who runs a job by hand. -/
  | hand (number : Nat)
  deriving DecidableEq, Repr

/-- The lines of all queries that are being worked on. -/
structure Turns where
  /-- The line of each query, by its fingerprint. -/
  lines : Keyed (List Runner) := []
  deriving DecidableEq, Repr

namespace Turns

/-- The line of a query. -/
def line (turns : Turns) (hash : String) : List Runner := (turns.lines.find? hash).getD []

/-- The turns with the line of a query replaced. -/
def withLine (turns : Turns) (hash : String) (line : List Runner) : Turns :=
  ⟨if line.isEmpty then turns.lines.without hash else turns.lines.put hash line⟩

/-- A runner goes to the end of a line. -/
def enter (turns : Turns) (hash : String) (runner : Runner) : Turns :=
  turns.withLine hash (turns.line hash ++ [runner])

/-- A runner leaves a line, whether it has its turn or still waits. -/
def leave (turns : Turns) (hash : String) (runner : Runner) : Turns :=
  turns.withLine hash ((turns.line hash).erase runner)

/-- Whether it is the turn of a runner. -/
def hasTurn (turns : Turns) (hash : String) (runner : Runner) : Bool :=
  (turns.line hash).head? = some runner

/-- The line that a query was given is the line that it has. -/
theorem line_withLine_self (turns : Turns) (hash : String) (line : List Runner) :
    (turns.withLine hash line).line hash = line := by
  cases line with
  | nil => simp [withLine, Turns.line, Keyed.find?_without_self]
  | cons first rest => simp [withLine, Turns.line, Keyed.find?_put_self]

/-- The lines of other queries stay as they are. -/
theorem line_withLine_ne (turns : Turns) {hash other : String} (line : List Runner)
    (different : other ≠ hash) : (turns.withLine hash line).line other = turns.line other := by
  cases line with
  | nil => simp [withLine, Turns.line, Keyed.find?_without_ne _ different]
  | cons first rest => simp [withLine, Turns.line, Keyed.find?_put_ne _ _ different]

/-- Who goes to the end of a line stands behind everybody else. -/
theorem line_enter (turns : Turns) (hash : String) (runner : Runner) :
    (turns.enter hash runner).line hash = turns.line hash ++ [runner] :=
  line_withLine_self _ _ _

/-- Who leaves a line is no longer in it. -/
theorem line_leave (turns : Turns) (hash : String) (runner : Runner) :
    (turns.leave hash runner).line hash = (turns.line hash).erase runner :=
  line_withLine_self _ _ _

end Turns

end QuestionDesk.Pipeline
