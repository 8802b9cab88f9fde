import Songbook.Formatter

/-!
# Compiled patterns show what their trees say

A tree has a meaning of its own: walk it in order, look every tag up at the place where it stands, and
follow one branch of each conditional. A compiled program looks a tag up once for each scope and keeps
the value in a slot. Running the program gives the pieces of the walk, whatever the tree, the queries
and the answers of the record, and it never addresses a slot that its frame does not have.
-/

namespace Songbook.Pattern

/-! ## Sequences of nodes -/

/-- Induction over sequences: the branches of a conditional are sequences again, a missing one an
empty sequence. -/
@[elab_as_elim]
theorem sequence_induction {motive : List Node → Prop} (nil : motive [])
    (literal : ∀ text rest, motive rest → motive (.literal text :: rest))
    (tag : ∀ name rest, motive rest → motive (.tag name :: rest))
    (conditional : ∀ name yes no rest, motive yes → motive (no.getD []) →
      motive rest → motive (.conditional name yes no :: rest))
    (nodes : List Node) : motive nodes :=
  @Node.rec_1 (fun node => ∀ rest, motive rest → motive (node :: rest)) motive
    (fun no => motive (no.getD []))
    literal tag
    (fun name yes no hyes hno rest => conditional name yes no rest hyes hno)
    nil (fun _ rest hnode hrest => hnode rest hrest) nil (fun _ hnodes => hnodes) nodes

/-! ## The meaning of a tree -/

/-- Whether a conditional of a name takes its first branch. -/
def View.takes {V : Type} (view : View V) (queries : String → Option Predicate) (name : String) :
    Bool :=
  match queries name with
  | some predicate => view.answers predicate
  | none => view.isPresent (view.fetch name)

section Evaluation

variable {V : Type} (view : View V) (queries : String → Option Predicate)

mutual

/-- The pieces that a sequence shows, every tag looked up where it stands. -/
def evaluateAll : List Node → List (Piece V)
  | [] => []
  | node :: rest => evaluateNode node ++ evaluateAll rest

/-- The pieces that a branch shows; a missing one shows nothing. -/
def evaluateBranch : Option (List Node) → List (Piece V)
  | none => []
  | some nodes => evaluateAll nodes

/-- The pieces that a node shows. -/
def evaluateNode : Node → List (Piece V)
  | .literal text => [.literal text]
  | .tag name => [.value name (view.fetch name)]
  | .conditional name yes no =>
    if view.takes queries name then evaluateAll yes else evaluateBranch no

end

end Evaluation

section Text

variable [RegexLibrary]

mutual

/-- The text that a sequence shows of a record in a dialect. -/
def textOfAll (dialect : Dialect) (queries : String → Option Predicate) (record : Record) :
    List Node → String
  | [] => ""
  | node :: rest => textOfNode dialect queries record node ++ textOfAll dialect queries record rest

/-- The text that a branch shows; a missing one shows nothing. -/
def textOfBranch (dialect : Dialect) (queries : String → Option Predicate) (record : Record) :
    Option (List Node) → String
  | none => ""
  | some nodes => textOfAll dialect queries record nodes

/-- The text that a node shows: a literal shows itself, a tag the text it has in the record, and a
conditional one of its branches. -/
def textOfNode (dialect : Dialect) (queries : String → Option Predicate) (record : Record) :
    Node → String
  | .literal text => text
  | .tag name => dialect.formatValue name (record.comma name)
  | .conditional name yes no =>
    if (match queries name with
      | some predicate => predicate.holds record
      | none => record.comma name != "") then
      textOfAll dialect queries record yes
    else textOfBranch dialect queries record no

end

theorem textOfBranch_eq (dialect : Dialect) (queries : String → Option Predicate)
    (record : Record) (no : Option (List Node)) :
    textOfBranch dialect queries record no = textOfAll dialect queries record (no.getD []) := by
  cases no <;> rfl

theorem textOfNode_conditional (dialect : Dialect) (queries : String → Option Predicate)
    (record : Record) (name : String) (yes : List Node) (no : Option (List Node)) :
    textOfNode dialect queries record (.conditional name yes no) =
      if (View.text record).takes queries name then textOfAll dialect queries record yes
      else textOfAll dialect queries record (no.getD []) := by
  rw [textOfNode, textOfBranch_eq]
  rfl

end Text

/-! ## Scopes -/

namespace Scope

/-- Every bound slot has been handed out, and no slot is bound to two tags. -/
structure Valid (scope : Scope) : Prop where
  below : ∀ name slot, (name, slot) ∈ scope.bound → slot < scope.next
  distinct : ∀ left right slot, (left, slot) ∈ scope.bound → (right, slot) ∈ scope.bound →
    left = right

/-- What an outer scope binds is bound alike in an inner one, and no slot is handed out again. -/
structure Extends (inner outer : Scope) : Prop where
  bound : outer.bound ⊆ inner.bound
  next : outer.next ≤ inner.next

theorem valid_empty : Valid {} where
  below := by simp
  distinct := by simp

namespace Extends

theorem refl (scope : Scope) : scope.Extends scope :=
  ⟨List.Subset.refl _, Nat.le_refl _⟩

theorem trans {inner middle outer : Scope} (hinner : inner.Extends middle)
    (houter : middle.Extends outer) : inner.Extends outer :=
  ⟨List.Subset.trans houter.bound hinner.bound, Nat.le_trans houter.next hinner.next⟩

end Extends

theorem Valid.leave {scope inner : Scope} (hvalid : scope.Valid) (hinner : inner.Extends scope) :
    (scope.leave inner).Valid where
  below name slot hmem := Nat.lt_of_lt_of_le (hvalid.below name slot hmem) hinner.next
  distinct := hvalid.distinct

theorem leave_extends {scope inner : Scope} (hinner : inner.Extends scope) :
    (scope.leave inner).Extends scope :=
  ⟨List.Subset.refl _, hinner.next⟩

/-- Binding a tag keeps a scope valid and gives a slot that the scope binds to that tag. -/
theorem Valid.bind {scope opened : Scope} (hvalid : scope.Valid) {name : String} {slot : Nat}
    (hbind : scope.bind name = (slot, opened)) :
    opened.Valid ∧ opened.Extends scope ∧ (name, slot) ∈ opened.bound := by
  unfold Scope.bind at hbind
  split at hbind
  next found hfound =>
    cases hbind
    obtain ⟨before, after, hbound, _⟩ := List.lookup_eq_some_iff.mp hfound
    refine ⟨hvalid, Extends.refl scope, ?_⟩
    simp [hbound]
  next hnone =>
    cases hbind
    refine ⟨⟨?_, ?_⟩, ⟨List.subset_cons_self _ _, Nat.le_succ _⟩, List.mem_cons_self⟩
    · intro other slot hmem
      rcases List.mem_cons.mp hmem with heq | hmem
      · cases heq
        exact Nat.lt_succ_self _
      · exact Nat.lt_succ_of_lt (hvalid.below other slot hmem)
    · intro left right slot hleft hright
      -- the new slot lies beyond every bound one, so only the new binding has it
      rcases List.mem_cons.mp hleft with hleft | hleft <;>
        rcases List.mem_cons.mp hright with hright | hright
      · cases hleft
        cases hright
        rfl
      · cases hleft
        exact absurd (hvalid.below right _ hright) (Nat.lt_irrefl _)
      · cases hright
        exact absurd (hvalid.below left _ hleft) (Nat.lt_irrefl _)
      · exact hvalid.distinct left right slot hleft hright

end Scope

/-! ## Compiling -/

theorem compileBranch_eq (queries : String → Option Predicate) (no : Option (List Node))
    (scope : Scope) : compileBranch queries no scope = compileAll queries (no.getD []) scope := by
  cases no <;> rfl

theorem evaluateBranch_eq {V : Type} (view : View V) (queries : String → Option Predicate)
    (no : Option (List Node)) :
    evaluateBranch view queries no = evaluateAll view queries (no.getD []) := by
  cases no <;> rfl

/-- The steps of a conditional: none if its branches have none. -/
def branchSteps (condition : Condition) (yes no : List Step) : List Step :=
  if yes.isEmpty && no.isEmpty then [] else [.branch condition yes no]

section Compile

variable {queries : String → Option Predicate} {scope final : Scope} {name : String}
  {rest : List Node} {steps : List Step}

theorem compileAll_tag (hcompile : compileAll queries (.tag name :: rest) scope = (steps, final)) :
    ∃ slot opened later, scope.bind name = (slot, opened) ∧
      compileAll queries rest opened = (later, final) ∧ steps = .value slot name :: later := by
  cases hcompile
  exact ⟨_, _, _, rfl, rfl, rfl⟩

/-- What compiling a conditional does: the second branch starts from the scope around the first one,
with the slots of the first one taken. -/
theorem compileAll_conditional {yes : List Node} {no : Option (List Node)}
    (hcompile : compileAll queries (.conditional name yes no :: rest) scope = (steps, final)) :
    ∃ condition opened yesSteps inner noSteps last later,
      conditionOf queries name scope = (condition, opened) ∧
      compileAll queries yes opened = (yesSteps, inner) ∧
      compileAll queries (no.getD []) (opened.leave inner) = (noSteps, last) ∧
      compileAll queries rest (opened.leave last) = (later, final) ∧
      steps = branchSteps condition yesSteps noSteps ++ later := by
  rcases hcondition : conditionOf queries name scope with ⟨condition, opened⟩
  rcases hyes : compileAll queries yes opened with ⟨yesSteps, inner⟩
  rcases hno : compileAll queries (no.getD []) (opened.leave inner) with ⟨noSteps, last⟩
  rcases hrest : compileAll queries rest (opened.leave last) with ⟨later, after⟩
  simp only [compileAll, compileNode, compileBranch_eq, hcondition, hyes, hno, hrest,
    Prod.mk.injEq] at hcompile
  obtain ⟨rfl, rfl⟩ := hcompile
  refine ⟨condition, opened, yesSteps, inner, noSteps, last, later, rfl, hyes, hno, hrest, ?_⟩
  unfold branchSteps
  cases yesSteps.isEmpty && noSteps.isEmpty <;> rfl

theorem conditionOf_cases {condition : Condition} {opened : Scope}
    (hcondition : conditionOf queries name scope = (condition, opened)) :
    (∃ predicate, queries name = some predicate ∧ condition = .query predicate ∧
      opened = scope) ∨
    (∃ slot, queries name = none ∧ condition = .tag slot name ∧
      scope.bind name = (slot, opened)) := by
  unfold conditionOf at hcondition
  split at hcondition
  next predicate hquery =>
    cases hcondition
    exact Or.inl ⟨predicate, hquery, rfl, rfl⟩
  next hquery =>
    cases hcondition
    exact Or.inr ⟨_, hquery, rfl, rfl⟩

theorem conditionOf_valid (hvalid : scope.Valid) {condition : Condition} {opened : Scope}
    (hcondition : conditionOf queries name scope = (condition, opened)) :
    opened.Valid ∧ opened.Extends scope := by
  rcases conditionOf_cases hcondition with ⟨_, _, _, rfl⟩ | ⟨slot, _, _, hbind⟩
  · exact ⟨hvalid, Scope.Extends.refl opened⟩
  · obtain ⟨hopened, hextends, _⟩ := hvalid.bind hbind
    exact ⟨hopened, hextends⟩

/-- Compiling a sequence keeps the scope valid, forgets none of its bindings and hands out new slots
only. -/
theorem compileAll_valid {nodes : List Node} (hvalid : scope.Valid)
    (hcompile : compileAll queries nodes scope = (steps, final)) :
    final.Valid ∧ final.Extends scope := by
  induction nodes using sequence_induction generalizing scope steps final with
  | nil =>
      cases hcompile
      exact ⟨hvalid, Scope.Extends.refl scope⟩
  | literal text rest ih =>
      cases hcompile
      exact ih hvalid rfl
  | tag name rest ih =>
      obtain ⟨slot, opened, later, hbind, hrest, _⟩ := compileAll_tag hcompile
      obtain ⟨hopened, hopens, _⟩ := hvalid.bind hbind
      obtain ⟨hfinal, hextends⟩ := ih hopened hrest
      exact ⟨hfinal, hextends.trans hopens⟩
  | conditional name yes no rest ihyes ihno ihrest =>
      obtain ⟨condition, opened, yesSteps, inner, noSteps, last, later, hcondition, hyes, hno,
        hrest, _⟩ := compileAll_conditional hcompile
      obtain ⟨hopened, hopens⟩ := conditionOf_valid hvalid hcondition
      obtain ⟨_, hinner⟩ := ihyes hopened hyes
      obtain ⟨_, hlast⟩ := ihno (hopened.leave hinner) hno
      have hleft := hlast.trans (Scope.leave_extends hinner)
      obtain ⟨hfinal, hextends⟩ := ihrest (hopened.leave hleft) hrest
      exact ⟨hfinal, hextends.trans ((Scope.leave_extends hleft).trans hopens)⟩

/-- How the scopes of a conditional nest. Its first branch starts from the scope of the condition, and
its second branch from the same bindings once the slots of the first branch have been handed out. -/
structure Branches (opened inner last : Scope) : Prop where
  valid : opened.Valid
  first : inner.Extends opened
  second : last.Extends (opened.leave inner)

namespace Branches

variable {opened inner last : Scope} (hbranches : Branches opened inner last)

include hbranches

theorem both : last.Extends opened :=
  hbranches.second.trans (Scope.leave_extends hbranches.first)

theorem valid_between : (opened.leave inner).Valid :=
  hbranches.valid.leave hbranches.first

theorem valid_after : (opened.leave last).Valid :=
  hbranches.valid.leave hbranches.both

end Branches

theorem branches_of_compileAll {yes no : List Node} {condition : Condition}
    {opened inner last : Scope} {yesSteps noSteps : List Step} (hvalid : scope.Valid)
    (hcondition : conditionOf queries name scope = (condition, opened))
    (hyes : compileAll queries yes opened = (yesSteps, inner))
    (hno : compileAll queries no (opened.leave inner) = (noSteps, last)) :
    Branches opened inner last := by
  obtain ⟨hopened, _⟩ := conditionOf_valid hvalid hcondition
  obtain ⟨_, hinner⟩ := compileAll_valid hopened hyes
  obtain ⟨_, hlast⟩ := compileAll_valid (hopened.leave hinner) hno
  exact ⟨hopened, hinner, hlast⟩

end Compile

/-! ## Slots -/

mutual

/-- The slots that a step addresses, in its branches as well. -/
def Step.addressed : Step → List Nat
  | .literal _ => []
  | .value slot _ => [slot]
  | .branch (.query _) yes no => addressedAll yes ++ addressedAll no
  | .branch (.tag slot _) yes no => slot :: (addressedAll yes ++ addressedAll no)

/-- The slots that several steps address. -/
def addressedAll : List Step → List Nat
  | [] => []
  | step :: rest => step.addressed ++ addressedAll rest

end

theorem addressedAll_append (first second : List Step) :
    addressedAll (first ++ second) = addressedAll first ++ addressedAll second := by
  induction first with
  | nil => rfl
  | cons step rest ih => simp [addressedAll, ih]

/-- Every slot that a conditional addresses belongs to its condition or to one of its branches. -/
theorem addressedAll_branchSteps {condition : Condition} {yes no : List Step} {slot : Nat}
    (hslot : slot ∈ addressedAll (branchSteps condition yes no)) :
    (∃ name, condition = .tag slot name) ∨ slot ∈ addressedAll yes ∨ slot ∈ addressedAll no := by
  unfold branchSteps at hslot
  split at hslot
  · cases hslot
  · cases condition with
    | query predicate =>
        simp only [addressedAll, Step.addressed, List.append_nil, List.mem_append] at hslot
        exact Or.inr hslot
    | tag tested name =>
        simp only [addressedAll, Step.addressed, List.append_nil, List.mem_cons,
          List.mem_append] at hslot
        rcases hslot with rfl | hslot
        · exact Or.inl ⟨name, rfl⟩
        · exact Or.inr hslot

/-- The steps of a sequence address slots that have been handed out by its end. -/
theorem addressedAll_lt {queries : String → Option Predicate} {nodes : List Node}
    {scope final : Scope} {steps : List Step} (hvalid : scope.Valid)
    (hcompile : compileAll queries nodes scope = (steps, final)) {slot : Nat}
    (hslot : slot ∈ addressedAll steps) : slot < final.next := by
  induction nodes using sequence_induction generalizing scope steps final with
  | nil =>
      cases hcompile
      cases hslot
  | literal text rest ih =>
      cases hcompile
      exact ih hvalid rfl hslot
  | tag name rest ih =>
      obtain ⟨bound, opened, later, hbind, hrest, rfl⟩ := compileAll_tag hcompile
      obtain ⟨hopened, _, hmem⟩ := hvalid.bind hbind
      obtain ⟨_, hextends⟩ := compileAll_valid hopened hrest
      rcases List.mem_cons.mp hslot with rfl | hslot
      · exact Nat.lt_of_lt_of_le (hopened.below name slot hmem) hextends.next
      · exact ih hopened hrest hslot
  | conditional name yes no rest ihyes ihno ihrest =>
      obtain ⟨condition, opened, yesSteps, inner, noSteps, last, later, hcondition, hyes, hno,
        hrest, rfl⟩ := compileAll_conditional hcompile
      have hbranches := branches_of_compileAll hvalid hcondition hyes hno
      obtain ⟨_, hfinal⟩ := compileAll_valid hbranches.valid_after hrest
      have hopenedLast := hbranches.both.next
      have hinnerLast : inner.next ≤ last.next := hbranches.second.next
      have hlastFinal : last.next ≤ final.next := hfinal.next
      -- the slots handed out only grow, from the test over the two branches to what follows
      rw [addressedAll_append, List.mem_append] at hslot
      rcases hslot with hslot | hslot
      · rcases addressedAll_branchSteps hslot with ⟨tested, rfl⟩ | hslot | hslot
        · rcases conditionOf_cases hcondition with ⟨_, _, heq, _⟩ | ⟨bound, _, heq, hbind⟩
          · cases heq
          · cases heq
            have htested := hbranches.valid.below _ _ (hvalid.bind hbind).2.2
            omega
        · have hfirst := ihyes hbranches.valid hyes hslot
          omega
        · have hsecond := ihno hbranches.valid_between hno hslot
          omega
      · exact ihrest hbranches.valid_after hrest hslot

/-! ## Running -/

section Run

variable {V : Type} {view : View V}

theorem Frame.read_eq (frame : Frame V) (slot : Nat) (name : String) :
    frame.read view slot name =
      match frame[slot]? with
      | none => (none, frame)
      | some (some content) => (some content, frame)
      | some none => (some (view.fetch name), frame.set slot (some (view.fetch name))) := by
  unfold Frame.read Frame.readM
  rcases frame[slot]? with _ | _ | content <;> rfl

theorem Condition.test_query (predicate : Predicate) (frame : Frame V) :
    (query predicate).test view frame = (view.answers predicate, frame) :=
  rfl

theorem Condition.test_tag (slot : Nat) (name : String) (frame : Frame V) :
    (tag slot name).test view frame =
      (((frame.read view slot name).1.map view.isPresent).getD false,
        (frame.read view slot name).2) :=
  rfl

theorem runSteps_nil (frame : Frame V) : runSteps view [] frame = ([], frame) :=
  rfl

theorem runStep_value (slot : Nat) (name : String) (frame : Frame V) :
    runStep view (.value slot name) frame =
      ((frame.read view slot name).1.toList.map (.value name), (frame.read view slot name).2) :=
  rfl

theorem runSteps_cons (step : Step) (rest : List Step) (frame : Frame V) :
    runSteps view (step :: rest) frame =
      ((runStep view step frame).1 ++ (runSteps view rest (runStep view step frame).2).1,
        (runSteps view rest (runStep view step frame).2).2) :=
  rfl

/-- Steps run one after the other, each from the frame that the one before it has left. -/
theorem runSteps_append (first second : List Step) (frame : Frame V) :
    runSteps view (first ++ second) frame =
      ((runSteps view first frame).1 ++ (runSteps view second (runSteps view first frame).2).1,
        (runSteps view second (runSteps view first frame).2).2) := by
  induction first generalizing frame with
  | nil => rfl
  | cons step rest ih => rw [List.cons_append, runSteps_cons, runSteps_cons, ih, List.append_assoc]

/-- A branch runs the steps that its condition selects. -/
theorem runStep_branch (condition : Condition) (yes no : List Step) (frame : Frame V) :
    runStep view (.branch condition yes no) frame =
      if (condition.test view frame).1 then runSteps view yes (condition.test view frame).2
      else runSteps view no (condition.test view frame).2 :=
  rfl

theorem runSteps_singleton (step : Step) (frame : Frame V) :
    runSteps view [step] frame = runStep view step frame := by
  rw [runSteps_cons, runSteps_nil, List.append_nil]

/-- A frame as a scope describes it in the middle of a run: the slot of a bound tag is empty or holds
what the record answers for that tag, and slots that have not been handed out are empty. -/
structure Follows (view : View V) (frame : Frame V) (scope : Scope) : Prop where
  bound : ∀ name slot content, (name, slot) ∈ scope.bound → frame[slot]? = some (some content) →
    content = view.fetch name
  free : ∀ slot content, scope.next ≤ slot → frame[slot]? ≠ some (some content)

theorem Follows.weaken {frame : Frame V} {inner outer : Scope}
    (hfollows : Follows view frame inner) (hbound : outer.bound ⊆ inner.bound)
    (hnext : inner.next ≤ outer.next) : Follows view frame outer where
  bound name slot content hmem := hfollows.bound name slot content (hbound hmem)
  free slot content hle := hfollows.free slot content (Nat.le_trans hnext hle)

/-- A tag just bound has an empty slot or one that already holds its value. -/
theorem Follows.bind {frame : Frame V} {scope opened : Scope} {name : String} {slot : Nat}
    (hfollows : Follows view frame scope) (hbind : scope.bind name = (slot, opened)) :
    Follows view frame opened := by
  unfold Scope.bind at hbind
  split at hbind
  next =>
    cases hbind
    exact hfollows
  next =>
    cases hbind
    refine ⟨?_, ?_⟩
    · intro other taken content hmem hcontent
      rcases List.mem_cons.mp hmem with heq | hmem
      · cases heq
        exact absurd hcontent (hfollows.free _ content (Nat.le_refl _))
      · exact hfollows.bound other taken content hmem hcontent
    · intro taken content hle
      exact hfollows.free taken content (Nat.le_of_succ_le hle)

/-- Reading the slot of a bound tag gives the record's answer for it. -/
theorem Follows.read {frame : Frame V} {scope : Scope} {name : String} {slot : Nat}
    (hfollows : Follows view frame scope) (hvalid : scope.Valid)
    (hmem : (name, slot) ∈ scope.bound) (hsize : slot < frame.length) :
    (frame.read view slot name).1 = some (view.fetch name) ∧
      Follows view (frame.read view slot name).2 scope ∧
      (frame.read view slot name).2.length = frame.length := by
  rw [Frame.read_eq]
  split
  next hnone =>
    rw [List.getElem?_eq_none_iff] at hnone
    omega
  next content hcontent =>
    rw [hfollows.bound name slot content hmem hcontent]
    exact ⟨rfl, hfollows, rfl⟩
  next hempty =>
    refine ⟨rfl, ⟨?_, ?_⟩, List.length_set⟩
    · intro other taken content hother hcontent
      by_cases heq : slot = taken
      · subst taken
        rw [List.getElem?_set_self hsize] at hcontent
        cases hcontent
        rw [hvalid.distinct other name slot hother hmem]
      · rw [List.getElem?_set_ne heq] at hcontent
        exact hfollows.bound other taken content hother hcontent
    · intro taken content hle
      have hne : slot ≠ taken := by
        have := hvalid.below name slot hmem
        omega
      rw [List.getElem?_set_ne hne]
      exact hfollows.free taken content hle

/-- Running steps from a frame shows the given pieces and leaves a frame of the same size that a scope
describes. -/
structure Shows (view : View V) (frame : Frame V) (steps : List Step) (pieces : List (Piece V))
    (final : Scope) : Prop where
  pieces : (runSteps view steps frame).1 = pieces
  follows : Follows view (runSteps view steps frame).2 final
  size : (runSteps view steps frame).2.length = frame.length

theorem Shows.append {frame : Frame V} {first second : List Step} {shown more : List (Piece V)}
    {middle final : Scope} (hfirst : Shows view frame first shown middle)
    (hsecond : Shows view (runSteps view first frame).2 second more final) :
    Shows view frame (first ++ second) (shown ++ more) final := by
  refine ⟨?_, ?_, ?_⟩
  · rw [runSteps_append, hfirst.pieces, hsecond.pieces]
  · rw [runSteps_append]
    exact hsecond.follows
  · rw [runSteps_append, hsecond.size, hfirst.size]

variable {queries : String → Option Predicate}

theorem Follows.test {frame : Frame V} {scope opened : Scope} {name : String}
    {condition : Condition} (hfollows : Follows view frame scope) (hvalid : scope.Valid)
    (hcondition : conditionOf queries name scope = (condition, opened))
    (hsize : opened.next ≤ frame.length) :
    (condition.test view frame).1 = view.takes queries name ∧
      Follows view (condition.test view frame).2 opened ∧
      (condition.test view frame).2.length = frame.length := by
  rcases conditionOf_cases hcondition with
    ⟨predicate, hquery, rfl, rfl⟩ | ⟨slot, hquery, rfl, hbind⟩
  · rw [Condition.test_query, View.takes, hquery]
    exact ⟨rfl, hfollows, rfl⟩
  · obtain ⟨hopened, _, hmem⟩ := hvalid.bind hbind
    have hslot := hopened.below name slot hmem
    obtain ⟨hcontent, hread, hlength⟩ := (hfollows.bind hbind).read hopened hmem (by omega)
    rw [Condition.test_tag, hcontent, View.takes, hquery]
    exact ⟨rfl, hread, hlength⟩

/-- A conditional shows the branch that its condition selects. One that has been left out selects
between two branches that show nothing. -/
theorem Shows.branch {frame : Frame V} {scope opened inner last : Scope} {name : String}
    {condition : Condition} {yes no : List Step} {shown other : List (Piece V)}
    (hvalid : scope.Valid) (hfollows : Follows view frame scope)
    (hcondition : conditionOf queries name scope = (condition, opened))
    (hbranches : Branches opened inner last) (hsize : last.next ≤ frame.length)
    (hyes : ∀ frame : Frame V, Follows view frame opened → inner.next ≤ frame.length →
      Shows view frame yes shown inner)
    (hno : ∀ frame : Frame V, Follows view frame (opened.leave inner) →
      last.next ≤ frame.length → Shows view frame no other last) :
    Shows view frame (branchSteps condition yes no)
      (if view.takes queries name then shown else other) (opened.leave last) := by
  have hinnerFirst := hbranches.first.next
  have hopenedLast := hbranches.both.next
  have hinnerLast : inner.next ≤ last.next := hbranches.second.next
  unfold branchSteps
  split
  next hempty =>
    -- the conditional is left out with its test, so the frame stays as it is
    simp only [Bool.and_eq_true, List.isEmpty_iff] at hempty
    obtain ⟨rfl, rfl⟩ := hempty
    have hopened : Follows view frame opened := by
      rcases conditionOf_cases hcondition with ⟨_, _, _, rfl⟩ | ⟨_, _, _, hbind⟩
      · exact hfollows
      · exact hfollows.bind hbind
    have hshown := (hyes frame hopened (by omega)).pieces
    have hother := (hno frame
      (hopened.weaken (List.Subset.refl _) hinnerFirst) hsize).pieces
    rw [runSteps_nil] at hshown hother
    refine ⟨?_, hopened.weaken (List.Subset.refl _) hopenedLast, rfl⟩
    simp [runSteps_nil, ← hshown, ← hother]
  next =>
    obtain ⟨htest, htested, hlength⟩ := hfollows.test hvalid hcondition (by omega)
    cases htakes : view.takes queries name with
    | true =>
        have hrun := hyes _ htested (by omega)
        rw [htakes] at htest
        refine ⟨?_, ?_, ?_⟩ <;> rw [runSteps_singleton, runStep_branch, htest, if_pos rfl]
        · rw [hrun.pieces, if_pos rfl]
        · exact hrun.follows.weaken hbranches.first.bound hinnerLast
        · rw [hrun.size, hlength]
    | false =>
        have hrun := hno _ (htested.weaken (List.Subset.refl _) hinnerFirst) (by omega)
        rw [htakes] at htest
        refine ⟨?_, ?_, ?_⟩ <;>
          rw [runSteps_singleton, runStep_branch, htest, if_neg Bool.false_ne_true]
        · rw [hrun.pieces, if_neg Bool.false_ne_true]
        · exact hrun.follows.weaken hbranches.both.bound (Nat.le_refl _)
        · rw [hrun.size, hlength]

/-- The steps of a sequence show what the sequence means, from every frame that the scope of the
sequence describes. -/
theorem shows_compileAll {nodes : List Node} {scope final : Scope} {steps : List Step}
    {frame : Frame V} (hvalid : scope.Valid)
    (hcompile : compileAll queries nodes scope = (steps, final))
    (hfollows : Follows view frame scope) (hsize : final.next ≤ frame.length) :
    Shows view frame steps (evaluateAll view queries nodes) final := by
  induction nodes using sequence_induction generalizing scope steps final frame with
  | nil =>
      cases hcompile
      exact ⟨rfl, hfollows, rfl⟩
  | literal text rest ih =>
      cases hcompile
      have hrest := ih hvalid rfl hfollows hsize
      exact ⟨congrArg (Piece.literal text :: ·) hrest.pieces, hrest.follows, hrest.size⟩
  | tag name rest ih =>
      obtain ⟨slot, opened, later, hbind, hrest, rfl⟩ := compileAll_tag hcompile
      obtain ⟨hopened, _, hmem⟩ := hvalid.bind hbind
      obtain ⟨_, hextends⟩ := compileAll_valid hopened hrest
      have hslot := hopened.below name slot hmem
      have hnext := hextends.next
      obtain ⟨hcontent, hread, hlength⟩ :=
        (hfollows.bind hbind).read hopened hmem (by omega)
      have hfirst : Shows view frame [.value slot name] [.value name (view.fetch name)] opened := by
        constructor <;> rw [runSteps_singleton, runStep_value]
        · rw [hcontent]
          rfl
        · exact hread
        · exact hlength
      exact hfirst.append (ih hopened hrest hfirst.follows (by rw [hfirst.size]; exact hsize))
  | conditional name yes no rest ihyes ihno ihrest =>
      obtain ⟨condition, opened, yesSteps, inner, noSteps, last, later, hcondition, hyes, hno,
        hrest, rfl⟩ := compileAll_conditional hcompile
      have hbranches := branches_of_compileAll hvalid hcondition hyes hno
      obtain ⟨_, hfinal⟩ := compileAll_valid hbranches.valid_after hrest
      have hlastFinal : last.next ≤ final.next := hfinal.next
      have hbranch := Shows.branch hvalid hfollows hcondition hbranches (by omega)
        (fun _ hframe hframeSize => ihyes hbranches.valid hyes hframe hframeSize)
        (fun _ hframe hframeSize => ihno hbranches.valid_between hno hframe hframeSize)
      have hlater := ihrest hbranches.valid_after hrest hbranch.follows
        (by rw [hbranch.size]; exact hsize)
      rw [← evaluateBranch_eq] at hbranch
      exact hbranch.append hlater

end Run

/-! ## Programs -/

/-- A whole program shows what its tree means, and its frame keeps the size it starts with. -/
theorem shows_compile {V : Type} (view : View V) (queries : String → Option Predicate)
    (nodes : List Node) :
    Shows view (List.replicate (compile queries nodes).slots none) (compile queries nodes).steps
      (evaluateAll view queries nodes) (compileAll queries nodes {}).2 := by
  have hempty : Follows view (List.replicate (compile queries nodes).slots none) {} := by
    refine ⟨by simp, ?_⟩
    intro slot content _ hcontent
    rw [List.getElem?_replicate] at hcontent
    split at hcontent <;> cases hcontent
  exact shows_compileAll Scope.valid_empty rfl hempty (by simp [Pattern.compile])

theorem pieces_compile {V : Type} (view : View V) (queries : String → Option Predicate)
    (nodes : List Node) :
    (compile queries nodes).pieces view = evaluateAll view queries nodes :=
  (shows_compile view queries nodes).pieces

/-- The text of a tree is that of the pieces it shows. -/
theorem join_evaluateAll [RegexLibrary] (dialect : Dialect) (queries : String → Option Predicate)
    (record : Record) (nodes : List Node) :
    String.join ((evaluateAll (.text record) queries nodes).map (Formatter.pieceText dialect)) =
      textOfAll dialect queries record nodes := by
  induction nodes using sequence_induction with
  | nil => rfl
  | literal text rest ih =>
      simp [evaluateAll, evaluateNode, textOfAll, textOfNode, Formatter.pieceText, ih]
  | tag name rest ih =>
      simp only [evaluateAll, evaluateNode, textOfAll, textOfNode, List.cons_append,
        List.nil_append, List.map_cons, String.join_cons, ih]
      rfl
  | conditional name yes no rest ihyes ihno ihrest =>
      simp only [evaluateAll, evaluateNode, textOfAll, textOfNode, evaluateBranch_eq,
        textOfBranch_eq, List.map_append, String.join_append, ihrest]
      rw [apply_ite (List.map _), apply_ite String.join, ihyes, ihno]
      rfl

/-- Compiling keeps the meaning of every tree: its program shows the text of the direct walk, in every
dialect and for all queries and answers. No step, taken or not, addresses a slot outside the frame,
which has the same size throughout the run. -/
theorem compile_shows_tree_text [RegexLibrary] (dialect : Dialect)
    (queries : String → Option Predicate) (record : Record) (nodes : List Node) :
    String.join (((compile queries nodes).pieces (.text record)).map
        (Formatter.pieceText dialect)) = textOfAll dialect queries record nodes ∧
      (∀ slot ∈ addressedAll (compile queries nodes).steps,
        slot < (compile queries nodes).slots) ∧
      ((compile queries nodes).run (.text record)).2.length = (compile queries nodes).slots := by
  refine ⟨?_, ?_, ?_⟩
  · rw [pieces_compile, join_evaluateAll]
  · intro slot hslot
    exact addressedAll_lt Scope.valid_empty rfl hslot
  · have hsize := (shows_compile (.text record) queries nodes).size
    rw [List.length_replicate] at hsize
    exact hsize

end Songbook.Pattern
