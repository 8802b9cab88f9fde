import Songbook.Pattern.Tree
import Songbook.Query.Parser

/-!
# Compiled patterns

A pattern is compiled once and run for many records. A program fetches the value of each tag at most
once: the first reference within a scope fetches it into a slot, and later references in that scope
reuse the slot. A branch of a conditional starts from the scope around it, and what it binds is
forgotten after it. A conditional whose name is a query tests the record by that query and takes no
slot.

The same program shows a record as one text or as all its combinations: a `View` says what is fetched
for a tag, and running a program gives the pieces of the output in order. The run is written once for
any way to fetch, which may do more than to give a value.
-/

namespace Songbook.Pattern

/-- What a conditional tests. -/
inductive Condition where
  | query (predicate : Predicate)
  | tag (slot : Nat) (name : String)

/-- A step of a program. -/
inductive Step where
  | literal (text : String)
  | value (slot : Nat) (name : String)
  | branch (condition : Condition) (yes no : List Step)

/-- A compiled pattern, with the number of slots its run needs. -/
structure Program where
  steps : List Step
  slots : Nat

/-! ## Compiling -/

/-- The slots of the tags bound in a scope, and the next free slot of the program. -/
structure Scope where
  bound : List (String × Nat) := []
  next : Nat := 0

namespace Scope

/-- The slot of a tag, a new one if the scope has none. -/
def bind (scope : Scope) (name : String) : Nat × Scope :=
  match scope.bound.lookup name with
  | some slot => (slot, scope)
  | none =>
    (scope.next, { bound := (name, scope.next) :: scope.bound, next := scope.next + 1 })

/-- The scope after a branch: what the branch bound is forgotten, the slots it took are not. -/
def leave (scope inner : Scope) : Scope :=
  { scope with next := inner.next }

end Scope

/-- The condition of a conditional, given the queries among the names. -/
def conditionOf (queries : String → Option Predicate) (name : String) (scope : Scope) :
    Condition × Scope :=
  match queries name with
  | some predicate => (.query predicate, scope)
  | none =>
    let (slot, scope) := scope.bind name
    (.tag slot name, scope)

mutual

/-- The steps of a sequence. -/
def compileAll (queries : String → Option Predicate) : List Node → Scope → List Step × Scope
  | [], scope => ([], scope)
  | node :: rest, scope =>
    let (step, scope) := compileNode queries node scope
    let (steps, scope) := compileAll queries rest scope
    (step.toList ++ steps, scope)

/-- The steps of a branch that may be missing. -/
def compileBranch (queries : String → Option Predicate) :
    Option (List Node) → Scope → List Step × Scope
  | none, scope => ([], scope)
  | some nodes, scope => compileAll queries nodes scope

/-- The step of a node. A conditional whose branches have no steps has none. -/
def compileNode (queries : String → Option Predicate) : Node → Scope → Option Step × Scope
  | .literal text, scope => (some (.literal text), scope)
  | .tag name, scope =>
    let (slot, scope) := scope.bind name
    (some (.value slot name), scope)
  | .conditional name yes no, scope =>
    let (condition, scope) := conditionOf queries name scope
    let (yes, inner) := compileAll queries yes scope
    let (no, inner) := compileBranch queries no (scope.leave inner)
    let step := if yes.isEmpty && no.isEmpty then none else some (.branch condition yes no)
    (step, scope.leave inner)

end

/-- The program of a tree. -/
def compile (queries : String → Option Predicate) (nodes : List Node) : Program :=
  let (steps, scope) := compileAll queries nodes {}
  { steps, slots := scope.next }

/-! ## Queries in conditionals -/

/-- Whether a name has the look of a query. -/
def looksLikeQuery (name : String) : Bool :=
  match name.toList with
  | '#' :: '(' :: _ => true
  | '&' :: '(' :: _ => true
  | '!' :: _ => true
  | characters => characters.contains '='

section Library

variable [RegexLibrary]

/-- The query that the name of a conditional stands for, read at an instant. A name that looks like a
query but cannot be read as one is a tag. -/
def queryOf? (now : Binary64) (name : String) : Option Predicate :=
  if looksLikeQuery name then (Query.parse name now).toOption else none

end Library

/-! ## Running -/

/-- What a program asks of a record. -/
structure View (V : Type) where
  /-- The value of a tag. -/
  fetch : String → V
  /-- Whether a value counts as present. -/
  isPresent : V → Bool
  /-- Whether a query holds. -/
  answers : Predicate → Bool

/-- A record seen as one text for each tag. -/
def View.text [RegexLibrary] (record : Record) : View String where
  fetch := record.comma
  isPresent value := value != ""
  answers := Predicate.holds record

/-- A record seen as a list of values for each tag. -/
def View.values [RegexLibrary] (record : Record) : View (List String) where
  fetch := record.list
  isPresent values := values.any fun value => value != ""
  answers := Predicate.holds record

/-- A piece of output: literal text, or the value of a tag before it is rendered. -/
inductive Piece (V : Type) where
  | literal (text : String)
  | value (name : String) (content : V)

/-- The slots of a run, empty until their tag is fetched. -/
abbrev Frame (V : Type) := List (Option V)

section Run

variable {m : Type → Type} [Monad m] {V : Type} (fetch : Nat → String → m V) (view : View V)

/-- The value of a slot, fetched for the slot if it is empty; nothing for a slot beyond the frame. -/
def Frame.readM (frame : Frame V) (slot : Nat) (name : String) : m (Option V × Frame V) :=
  match frame[slot]? with
  | none => pure (none, frame)
  | some (some content) => pure (some content, frame)
  | some none => do
    let content ← fetch slot name
    pure (some content, frame.set slot (some content))

/-- Whether a condition holds, and the frame after its test. -/
def Condition.testM (condition : Condition) (frame : Frame V) : m (Bool × Frame V) :=
  match condition with
  | query predicate => pure (view.answers predicate, frame)
  | tag slot name => do
    let (content, frame) ← frame.readM fetch slot name
    pure ((content.map view.isPresent).getD false, frame)

mutual

/-- The pieces that a step adds. -/
def runStepM : Step → Frame V → m (List (Piece V) × Frame V)
  | .literal text, frame => pure ([.literal text], frame)
  | .value slot name, frame => do
    let (content, frame) ← frame.readM fetch slot name
    pure (content.toList.map (.value name), frame)
  | .branch condition yes no, frame => do
    let (holds, frame) ← condition.testM fetch view frame
    if holds then runStepsM yes frame else runStepsM no frame

/-- The pieces that several steps add. -/
def runStepsM : List Step → Frame V → m (List (Piece V) × Frame V)
  | [], frame => pure ([], frame)
  | step :: rest, frame => do
    let (pieces, frame) ← runStepM step frame
    let (more, frame) ← runStepsM rest frame
    pure (pieces ++ more, frame)

end

/-- Run a program from an empty frame. -/
def Program.runM (program : Program) : m (List (Piece V) × Frame V) :=
  runStepsM fetch view program.steps (List.replicate program.slots none)

end Run

section View

variable {V : Type} (view : View V)

/-- The value of a slot, looked up by the view if the slot is empty. -/
def Frame.read (frame : Frame V) (slot : Nat) (name : String) : Option V × Frame V :=
  Id.run (frame.readM (fun _ => view.fetch) slot name)

/-- Whether a condition holds of what the view shows, and the frame after its test. -/
def Condition.test (condition : Condition) (frame : Frame V) : Bool × Frame V :=
  Id.run (condition.testM (fun _ => view.fetch) view frame)

/-- The pieces that a step adds for the view. -/
def runStep (step : Step) (frame : Frame V) : List (Piece V) × Frame V :=
  Id.run (runStepM (fun _ => view.fetch) view step frame)

/-- The pieces that several steps add for the view. -/
def runSteps (steps : List Step) (frame : Frame V) : List (Piece V) × Frame V :=
  Id.run (runStepsM (fun _ => view.fetch) view steps frame)

/-- Run a program for a view. -/
def Program.run (program : Program) : List (Piece V) × Frame V :=
  Id.run (program.runM (fun _ => view.fetch) view)

/-- The pieces of a program's output. -/
def Program.pieces (program : Program) : List (Piece V) :=
  (program.run view).1

end View

/-! ## Referenced tags -/

mutual

/-- The names of a sequence in order, those of queries left out. -/
def namesOfAll (queries : String → Option Predicate) : List Node → List String
  | [] => []
  | node :: rest => namesOfNode queries node ++ namesOfAll queries rest

/-- The names of a branch that may be missing. -/
def namesOfBranch (queries : String → Option Predicate) : Option (List Node) → List String
  | none => []
  | some nodes => namesOfAll queries nodes

/-- The names of a node. -/
def namesOfNode (queries : String → Option Predicate) : Node → List String
  | .literal _ => []
  | .tag name => [name]
  | .conditional name yes no =>
    (if (queries name).isNone then [name] else []) ++ namesOfAll queries yes
      ++ namesOfBranch queries no

end

/-- The elements of a list, each at its first place only. -/
def firstOccurrences (names : List String) : List String :=
  names.foldl (fun seen name => if seen.contains name then seen else seen ++ [name]) []

/-- The tags that a tree refers to, tied ones as their parts, each at its first place. -/
def referencedTags (queries : String → Option Predicate) (nodes : List Node) : List String :=
  firstOccurrences ((namesOfAll queries nodes).flatMap Tag.split)

end Songbook.Pattern
