import Mathlib.Data.List.Nodup
import Mathlib.Data.List.Perm.Subperm
import Songbook.Proofs.Pattern.Slots

/-!
# Fetches of a run

A run fetches a tag when it comes to a slot that is still empty, and fills the slot. So no run
fetches twice for one slot, and it fetches at most as often as its program has slots. As a run can
fetch in any way, it can list what it fetches: the listing run shows what the run for the record alone
shows, and tells for which slots it has fetched.
-/

namespace Songbook.Pattern

/-- Induction over steps: the branches of a step are steps again. -/
@[elab_as_elim]
theorem steps_induction {motive : List Step → Prop} (nil : motive [])
    (literal : ∀ text rest, motive rest → motive (.literal text :: rest))
    (value : ∀ slot name rest, motive rest → motive (.value slot name :: rest))
    (branch : ∀ condition yes no rest, motive yes → motive no → motive rest →
      motive (.branch condition yes no :: rest))
    (steps : List Step) : motive steps :=
  @Step.rec_1 (fun step => ∀ rest, motive rest → motive (step :: rest)) motive
    literal value
    (fun condition yes no hyes hno rest => branch condition yes no rest hyes hno)
    nil (fun _ rest hstep hrest => hstep rest hrest) steps

/-! ## What a run fetches -/

/-- What a part of a run fetches, as the slots that it finds empty and leaves filled, each once. No
filled slot is emptied or filled again. -/
structure Fetches {V : Type} (before after : Frame V) (fetched : List (Nat × String)) : Prop where
  once : (fetched.map Prod.fst).Nodup
  empty : ∀ entry ∈ fetched, before[entry.1]? = some none
  filled : ∀ entry ∈ fetched, ∃ content, after[entry.1]? = some (some content)
  kept : ∀ (slot : Nat) (content : V), before[slot]? = some (some content) →
    after[slot]? = some (some content)
  size : after.length = before.length

namespace Fetches

variable {V : Type} {before middle after : Frame V} {first second : List (Nat × String)}

theorem refl (frame : Frame V) : Fetches frame frame [] where
  once := List.nodup_nil
  empty _ hmem := absurd hmem List.not_mem_nil
  filled _ hmem := absurd hmem List.not_mem_nil
  kept _ _ hcontent := hcontent
  size := rfl

/-- A slot that is empty later on has been empty before. -/
theorem empty_before {slot : Nat} (hfetches : Fetches before after first)
    (hempty : after[slot]? = some none) : before[slot]? = some none := by
  rcases hbefore : before[slot]? with _ | _ | content
  · rw [List.getElem?_eq_none_iff] at hbefore
    have hslot := (List.getElem?_eq_some_iff.mp hempty).1
    rw [hfetches.size] at hslot
    omega
  · rfl
  · rw [hfetches.kept slot content hbefore] at hempty
    cases hempty

theorem trans (hfirst : Fetches before middle first) (hsecond : Fetches middle after second) :
    Fetches before after (first ++ second) := by
  constructor
  · rw [List.map_append]
    refine List.Nodup.append hfirst.once hsecond.once ?_
    -- what the first part fetches is filled when the second part starts
    intro slot hleft hright
    obtain ⟨entry, hentry, rfl⟩ := List.mem_map.mp hleft
    obtain ⟨other, hother, heq⟩ := List.mem_map.mp hright
    obtain ⟨content, hcontent⟩ := hfirst.filled entry hentry
    rw [← heq, hsecond.empty other hother] at hcontent
    cases hcontent
  · intro entry hmem
    rcases List.mem_append.mp hmem with hmem | hmem
    · exact hfirst.empty entry hmem
    · exact hfirst.empty_before (hsecond.empty entry hmem)
  · intro entry hmem
    rcases List.mem_append.mp hmem with hmem | hmem
    · obtain ⟨content, hcontent⟩ := hfirst.filled entry hmem
      exact ⟨content, hsecond.kept _ content hcontent⟩
    · exact hsecond.filled entry hmem
  · intro slot content hcontent
    exact hsecond.kept slot content (hfirst.kept slot content hcontent)
  · rw [hsecond.size, hfirst.size]

/-- Filling an empty slot fetches for it. -/
theorem fill {slot : Nat} (hempty : before[slot]? = some none) (name : String) (content : V) :
    Fetches before (before.set slot (some content)) [(slot, name)] := by
  have hslot := (List.getElem?_eq_some_iff.mp hempty).1
  constructor
  · exact List.nodup_singleton _
  · intro entry hmem
    cases List.mem_singleton.mp hmem
    exact hempty
  · intro entry hmem
    cases List.mem_singleton.mp hmem
    exact ⟨content, List.getElem?_set_self hslot⟩
  · intro other kept hkept
    have hne : slot ≠ other := by
      rintro rfl
      rw [hempty] at hkept
      cases hkept
    rw [List.getElem?_set_ne hne, hkept]
  · exact List.length_set

end Fetches

/-! ## Runs that list what they fetch -/

/-- Fetch from the record, and add the slot that is fetched for, with its tag, to a list. -/
def View.fetchListed {V : Type} (view : View V) (slot : Nat) (name : String) :
    StateM (List (Nat × String)) V := do
  modify (· ++ [(slot, name)])
  pure (view.fetch name)

/-- Run a program, and list what it fetches. -/
def Program.runListed {V : Type} (program : Program) (view : View V) :
    (List (Piece V) × Frame V) × List (Nat × String) :=
  (program.runM view.fetchListed view).run []

/-- A listing part of a run has the outcome of the plain one, and lists what it fetches, of the given
slots only. -/
def Lists {V α : Type} (frame : Frame V) (uses : List (Nat × String))
    (listing : StateM (List (Nat × String)) (α × Frame V)) (outcome : α × Frame V) : Prop :=
  ∃ fetched, (∀ listed, listing.run listed = (outcome, listed ++ fetched)) ∧
    Fetches frame outcome.2 fetched ∧ fetched ⊆ uses

namespace Lists

variable {V α β : Type} {frame : Frame V} {uses more : List (Nat × String)}
  {listing : StateM (List (Nat × String)) (α × Frame V)} {outcome : α × Frame V}

theorem pure (uses : List (Nat × String)) (result : α) (frame : Frame V) :
    Lists frame uses (Pure.pure (result, frame)) (result, frame) :=
  ⟨[], fun listed => by rw [List.append_nil]; rfl, .refl frame, List.nil_subset _⟩

theorem mono (hlists : Lists frame uses listing outcome) (hsubset : uses ⊆ more) :
    Lists frame more listing outcome := by
  obtain ⟨fetched, hrun, hfetches, huses⟩ := hlists
  exact ⟨fetched, hrun, hfetches, List.Subset.trans huses hsubset⟩

theorem bind {next : α × Frame V → StateM (List (Nat × String)) (β × Frame V)}
    {last : β × Frame V} (hlists : Lists frame uses listing outcome)
    (hnext : Lists outcome.2 uses (next outcome) last) :
    Lists frame uses (listing >>= next) last := by
  obtain ⟨first, hrun, hfirst, huses⟩ := hlists
  obtain ⟨second, hlater, hsecond, hmore⟩ := hnext
  refine ⟨first ++ second, fun listed => ?_, hfirst.trans hsecond, ?_⟩
  · rw [StateT.run_bind, hrun]
    change (next outcome).run (listed ++ first) = _
    rw [hlater, List.append_assoc]
  · exact List.append_subset.mpr ⟨huses, hmore⟩

end Lists

section Run

variable {V : Type} (view : View V)

theorem lists_read (frame : Frame V) (slot : Nat) (name : String) :
    Lists frame [(slot, name)] (frame.readM view.fetchListed slot name)
      (frame.read view slot name) := by
  unfold Frame.read Frame.readM
  rcases hcontent : frame[slot]? with _ | _ | content
  · exact .pure _ _ frame
  · exact ⟨[(slot, name)], fun listed => rfl, .fill hcontent name _, List.Subset.refl _⟩
  · exact .pure _ _ frame

theorem lists_test (condition : Condition) (frame : Frame V) :
    Lists frame condition.uses (condition.testM view.fetchListed view frame)
      (condition.test view frame) := by
  cases condition with
  | query predicate => exact .pure _ _ frame
  | tag slot name => exact (lists_read view frame slot name).bind (.pure _ _ _)

/-- A step and those after it list what each of them lists. -/
theorem lists_cons {step : Step} {rest : List Step} {frame : Frame V}
    (hstep : Lists frame step.uses (runStepM view.fetchListed view step frame)
      (runStep view step frame))
    (hrest : ∀ frame, Lists frame (usesAll rest) (runStepsM view.fetchListed view rest frame)
      (runSteps view rest frame)) :
    Lists frame (usesAll (step :: rest)) (runStepsM view.fetchListed view (step :: rest) frame)
      (runSteps view (step :: rest) frame) := by
  have hfirst := hstep.mono (List.subset_append_left step.uses (usesAll rest))
  have hsecond := (hrest (runStep view step frame).2).mono
    (List.subset_append_right step.uses (usesAll rest))
  exact hfirst.bind (hsecond.bind (.pure _ _ _))

/-- Running steps and listing what they fetch shows what the plain run shows, and fetches for slots of
the steps, each of them once. -/
theorem lists_steps (steps : List Step) (frame : Frame V) :
    Lists frame (usesAll steps) (runStepsM view.fetchListed view steps frame)
      (runSteps view steps frame) := by
  induction steps using steps_induction generalizing frame with
  | nil => exact .pure _ _ frame
  | literal text rest ih => exact lists_cons view (.pure _ _ frame) ih
  | value slot name rest ih =>
      exact lists_cons view ((lists_read view frame slot name).bind (.pure _ _ _)) ih
  | branch condition yes no rest ihyes ihno ihrest =>
      have htest := (lists_test view condition frame).mono
        (List.subset_append_left condition.uses (usesAll yes ++ usesAll no))
      have hbranches := List.subset_append_right condition.uses (usesAll yes ++ usesAll no)
      refine lists_cons view (htest.bind ?_) ihrest
      rw [runStep_branch]
      cases htaken : (condition.test view frame).1 with
      | true =>
          have hyes := (ihyes (condition.test view frame).2).mono
            (List.Subset.trans (List.subset_append_left _ _) hbranches)
          simpa [htaken] using hyes
      | false =>
          have hno := (ihno (condition.test view frame).2).mono
            (List.Subset.trans (List.subset_append_right _ _) hbranches)
          simpa [htaken] using hno

end Run

/-! ## Slots and fetches of a tree -/

section Tree

variable {V : Type} (view : View V) (queries : String → Option Predicate) (nodes : List Node)

/-- The run of a program lists each of its slots once at most, so it fetches no more often than it has
slots. -/
theorem runListed_compile :
    ∃ fetched, (compile queries nodes).runListed view =
        ((compile queries nodes).run view, fetched) ∧
      (fetched.map Prod.fst).Nodup ∧ fetched ⊆ usesAll (compile queries nodes).steps ∧
      fetched.length ≤ (compile queries nodes).slots := by
  obtain ⟨fetched, hrun, hfetches, huses⟩ := lists_steps view (compile queries nodes).steps
    (List.replicate (compile queries nodes).slots none)
  have hbelow : fetched.map Prod.fst ⊆ List.range (compile queries nodes).slots := by
    intro slot hslot
    obtain ⟨entry, hentry, rfl⟩ := List.mem_map.mp hslot
    have huse := huses hentry
    rw [usesAll_compile, compiledUses] at huse
    obtain ⟨reference, hreference, rfl⟩ := List.mem_map.mp huse
    exact List.mem_range.mpr (slot_lt (List.mem_filter.mp hreference).1)
  have hlength := (List.subperm_of_subset hfetches.once hbelow).length_le
  rw [List.length_map, List.length_range] at hlength
  exact ⟨fetched, hrun [], hfetches.once, huses, hlength⟩

/-- A slot belongs to one tag. References to a tag have the same slot where the later one is in the
scope of the earlier one or in a branch within that scope. They have different slots where one is in a
branch, the other outside of it, and nothing before the branch refers to the tag. Listed fetch by fetch,
every run fetches once at most for each slot, and only for the slots of its steps, which are those of
the references. -/
theorem slots_follow_scopes :
    (references queries nodes).map Reference.name = namesOfAll queries nodes ∧
    usesAll (compile queries nodes).steps = compiledUses (references queries nodes) ∧
    (∀ left ∈ references queries nodes, ∀ right ∈ references queries nodes,
      left.slot = right.slot → left.name = right.name) ∧
    (∀ earlier ∈ references queries nodes, ∀ later ∈ references queries nodes,
      earlier.name = later.name → earlier.Reaches later → earlier.slot = later.slot) ∧
    (∀ inside ∈ references queries nodes, ∀ outside ∈ references queries nodes, ∀ branch,
      branch <+: inside.scope → ¬branch <+: outside.scope →
      (∀ origin ∈ references queries nodes, origin.name = inside.name →
        origin.scope <+: outside.scope → ¬origin.Precedes branch) →
      inside.slot ≠ outside.slot) ∧
    ∃ fetched, (compile queries nodes).runListed view =
        ((compile queries nodes).run view, fetched) ∧
      (fetched.map Prod.fst).Nodup ∧ fetched ⊆ usesAll (compile queries nodes).steps ∧
      fetched.length ≤ (compile queries nodes).slots := by
  have hslotted := slotted_references queries nodes
  refine ⟨map_name_references queries nodes, usesAll_compile queries nodes, ?_, ?_, ?_,
    runListed_compile view queries nodes⟩
  · intro left hleft right hright hslot
    exact hslotted.named hleft hright hslot
  · intro earlier hearlier later hlater hname hreaches
    exact hslotted.agree hearlier hlater hname hreaches
  · intro inside hinside outside houtside branch hbranch hleave hfirst
    exact slot_ne_of_branch hinside houtside hbranch hleave hfirst

end Tree

/-- What is bound before a conditional serves its branches, and what a branch binds does not serve what
follows. -/
example :
    let view : View String := { fetch := id, isPresent := fun _ => true, answers := fun _ => true }
    let fetched := fun nodes => ((compile (fun _ => none) nodes).runListed view).2
    fetched [.tag "artist", .conditional "artist" [.tag "artist"] none, .tag "artist"] =
        [(0, "artist")] ∧
      fetched [.conditional "artist" [.tag "title"] none, .tag "title"] =
        [(0, "artist"), (1, "title"), (2, "title")] := by
  decide

end Songbook.Pattern
