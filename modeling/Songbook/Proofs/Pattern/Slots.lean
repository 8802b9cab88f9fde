import Songbook.Proofs.Pattern.Evaluation

/-!
# Slots of references

Compiling gives every reference of a tree a slot: that of a reference to the same tag before it, in its
own scope or in one around it, and a new one if there is none. So a slot belongs to one tag, references
have the same slot where one of them is in sight of the other, and what is first referred to within a
branch has another slot outside of it.
-/

namespace Songbook.Pattern

/-! ## Places -/

/-- A reference of a tree to a tag, by name or as what a conditional tests, with the slot that it is
given. -/
structure Reference where
  /-- The branches around it, the outermost first: which conditional of a sequence, by its index, and
  whether its first branch. -/
  scope : List (Nat × Bool)
  /-- Its index in the sequence where it stands. -/
  index : Nat
  name : String
  slot : Nat
  /-- Whether the program has a step for it. -/
  compiled : Bool
  deriving DecidableEq, Repr

namespace Reference

/-- A reference as it is seen from around the branch of a conditional. -/
def within (index : Nat) (side : Bool) (reference : Reference) : Reference :=
  { reference with scope := (index, side) :: reference.scope }

/-- The index of what holds a place in a sequence, given the branches in it around the place. -/
def position (inner : List (Nat × Bool)) (index : Nat) : Nat :=
  match inner with
  | [] => index
  | (outer, _) :: _ => outer

/-- Whether a reference lies at another one or after it, in its scope or in a branch nested in that
scope. -/
def Reaches (earlier later : Reference) : Prop :=
  ∃ inner, later.scope = earlier.scope ++ inner ∧ earlier.index ≤ position inner later.index

/-- Whether a branch lies in the scope of a reference and its conditional not before the reference,
which may be what the conditional tests. -/
def Precedes (reference : Reference) (branch : List (Nat × Bool)) : Prop :=
  ∃ index side inner, branch = reference.scope ++ (index, side) :: inner ∧ reference.index ≤ index

end Reference

/-- The reference that a condition is, if it tests a tag. -/
def Condition.references (index : Nat) (compiled : Bool) : Condition → List Reference
  | query _ => []
  | tag slot name => [{ scope := [], index, name, slot, compiled }]

section References

variable (queries : String → Option Predicate)

mutual

/-- The references of a sequence that starts with the given index in the given scope. -/
def placedAll (index : Nat) : List Node → Scope → List Reference
  | [], _ => []
  | node :: rest, scope =>
    placedOf index node scope ++ placedAll (index + 1) rest (compileNode queries node scope).2

/-- The references of a branch that may be missing. -/
def placedBranch : Option (List Node) → Scope → List Reference
  | none, _ => []
  | some nodes, scope => placedAll 0 nodes scope

/-- The references of a node with the given index. -/
def placedOf (index : Nat) : Node → Scope → List Reference
  | .literal _, _ => []
  | .tag name, scope =>
    [{ scope := [], index, name, slot := (scope.bind name).1, compiled := true }]
  | .conditional name yes no, scope =>
    let (condition, opened) := conditionOf queries name scope
    let (yesSteps, inner) := compileAll queries yes opened
    let (noSteps, _) := compileBranch queries no (opened.leave inner)
    condition.references index (!(yesSteps.isEmpty && noSteps.isEmpty))
      ++ ((placedAll 0 yes opened).map (Reference.within index true)
        ++ (placedBranch no (opened.leave inner)).map (Reference.within index false))

end

/-- The references of a tree, with the slots that its program has for them. -/
def references (nodes : List Node) : List Reference :=
  placedAll queries 0 nodes {}

end References

/-- A conditional's references: what it tests, unless that is a query, and those of its branches. -/
example : (references (fun _ => none)
    [.conditional "artist" [.tag "title"] none, .tag "title", .tag "artist"]).map
      (fun reference => (reference.name, reference.slot)) =
    [("artist", 0), ("title", 1), ("title", 2), ("artist", 0)] := by
  decide

/-! ## Bindings -/

namespace Scope

variable {scope opened : Scope} {name other : String} {slot : Nat}

/-- The slot of a tag that is bound in a scope. -/
def slot? (scope : Scope) (name : String) : Option Nat :=
  scope.bound.lookup name

theorem mem_of_slot? (hslot : scope.slot? name = some slot) : (name, slot) ∈ scope.bound := by
  obtain ⟨before, after, hbound, _⟩ := List.lookup_eq_some_iff.mp hslot
  simp [hbound]

/-- What binding a tag does: it is bound already, or gets the next free slot. -/
theorem bind_cases (hbind : scope.bind name = (slot, opened)) :
    (scope.slot? name = some slot ∧ opened = scope) ∨
    (scope.slot? name = none ∧ slot = scope.next ∧ opened.next = scope.next + 1 ∧
      opened.bound = (name, slot) :: scope.bound) := by
  unfold Scope.bind at hbind
  split at hbind
  next found hfound =>
    cases hbind
    exact Or.inl ⟨hfound, rfl⟩
  next hnone =>
    cases hbind
    exact Or.inr ⟨hnone, rfl, rfl, rfl⟩

theorem slot?_bind (hbind : scope.bind name = (slot, opened)) : opened.slot? name = some slot := by
  rcases bind_cases hbind with ⟨hslot, rfl⟩ | ⟨_, _, _, hbound⟩
  · exact hslot
  · rw [slot?, hbound, List.lookup_cons_self]

theorem slot?_bind_of_ne (hbind : scope.bind name = (slot, opened)) (hne : other ≠ name) :
    opened.slot? other = scope.slot? other := by
  rcases bind_cases hbind with ⟨_, rfl⟩ | ⟨_, _, _, hbound⟩
  · rfl
  · rw [slot?, hbound, List.lookup_cons, beq_eq_false_iff_ne.mpr hne, slot?]

end Scope

/-! ## What is in sight of what -/

namespace Reference

variable {reference earlier later : Reference}

/-- The index of the node of a sequence that holds a reference. -/
def lead (reference : Reference) : Nat :=
  position reference.scope reference.index

theorem Reaches.refl (reference : Reference) : reference.Reaches reference :=
  ⟨[], (List.append_nil _).symm, Nat.le_refl _⟩

theorem reaches_of_lead (hscope : earlier.scope = []) (hlead : earlier.index ≤ later.lead) :
    earlier.Reaches later :=
  ⟨later.scope, by rw [hscope, List.nil_append], hlead⟩

theorem Reaches.lead_le (hreaches : earlier.Reaches later) : earlier.lead ≤ later.lead := by
  obtain ⟨inner, hscope, hindex⟩ := hreaches
  cases houter : earlier.scope with
  | nil => simpa [lead, hscope, houter, position] using hindex
  | cons => simp [lead, hscope, houter, position]

theorem within_reaches {index : Nat} {side : Bool}
    (hreaches : (earlier.within index side).Reaches later) :
    ∃ inner, later.scope = (index, side) :: inner := by
  obtain ⟨inner, hscope, _⟩ := hreaches
  exact ⟨earlier.scope ++ inner, hscope⟩

theorem within_reaches_within_iff {index : Nat} {side : Bool} :
    (earlier.within index side).Reaches (later.within index side) ↔ earlier.Reaches later := by
  simp [Reaches, within]

end Reference

/-! ## Slots of a sequence -/

/-- The slots that a scope has given out: each is below the next one and belongs to one tag. -/
structure Bounds (bound : String → Option Nat) (next : Nat) : Prop where
  below : ∀ {name slot}, bound name = some slot → slot < next
  distinct : ∀ {left right slot}, bound left = some slot → bound right = some slot → left = right

/-- How references have their slots where some tags are bound and new slots are given out between two
bounds. -/
structure Slotted (bound : String → Option Nat) (low high : Nat)
    (references : List Reference) : Prop where
  assigned : ∀ {reference}, reference ∈ references → bound reference.name = some reference.slot ∨
    bound reference.name = none ∧ low ≤ reference.slot ∧ reference.slot < high
  named : ∀ {left right}, left ∈ references → right ∈ references → left.slot = right.slot →
    left.name = right.name
  agree : ∀ {earlier later}, earlier ∈ references → later ∈ references →
    earlier.name = later.name → earlier.Reaches later → earlier.slot = later.slot
  /-- References that have the same slot have it from around, or from one that both are in sight
  of. -/
  shared : ∀ {left right}, left ∈ references → right ∈ references → left.slot = right.slot →
    bound left.name = some left.slot ∨
      ∃ origin ∈ references, origin.slot = left.slot ∧ origin.Reaches left ∧ origin.Reaches right

theorem Scope.Valid.bounds {scope : Scope} (hvalid : scope.Valid) :
    Bounds scope.slot? scope.next where
  below hslot := hvalid.below _ _ (Scope.mem_of_slot? hslot)
  distinct hleft hright :=
    hvalid.distinct _ _ _ (Scope.mem_of_slot? hleft) (Scope.mem_of_slot? hright)

namespace Slotted

variable {bound : String → Option Nat} {low middle high : Nat} {first second : List Reference}

theorem nil (bound : String → Option Nat) (low : Nat) : Slotted bound low low [] where
  assigned hmem := absurd hmem List.not_mem_nil
  named hmem := absurd hmem List.not_mem_nil
  agree hmem := absurd hmem List.not_mem_nil
  shared hmem := absurd hmem List.not_mem_nil

/-- Two parts of a sequence have a slot in common only if it was given out before. -/
theorem bound_of_shared (hbounds : Bounds bound low) (hle : low ≤ middle)
    (hfirst : Slotted bound low middle first) (hsecond : Slotted bound middle high second)
    {left right : Reference} (hleft : left ∈ first) (hright : right ∈ second)
    (hslot : left.slot = right.slot) :
    bound left.name = some left.slot ∧ bound right.name = some right.slot := by
  rcases hfirst.assigned hleft with hbound | ⟨_, hlow, hmiddle⟩
  · rcases hsecond.assigned hright with hother | ⟨_, hnew, _⟩
    · exact ⟨hbound, hother⟩
    · have hbelow := hbounds.below hbound
      omega
  · rcases hsecond.assigned hright with hother | ⟨_, hnew, _⟩
    · have hbelow := hbounds.below hother
      omega
    · omega

theorem append (hbounds : Bounds bound low) (hlow : low ≤ middle) (hhigh : middle ≤ high)
    (hfirst : Slotted bound low middle first) (hsecond : Slotted bound middle high second)
    (hapart : ∀ left ∈ first, ∀ right ∈ second, ¬left.Reaches right ∧ ¬right.Reaches left) :
    Slotted bound low high (first ++ second) := by
  have hcommon : ∀ {left right}, left ∈ first → right ∈ second → left.slot = right.slot →
      bound left.name = some left.slot ∧ bound right.name = some right.slot :=
    bound_of_shared hbounds hlow hfirst hsecond
  constructor
  · intro reference hmem
    rcases List.mem_append.mp hmem with hmem | hmem
    · exact (hfirst.assigned hmem).imp_right fun ⟨hnone, hge, hlt⟩ => ⟨hnone, hge, by omega⟩
    · exact (hsecond.assigned hmem).imp_right fun ⟨hnone, hge, hlt⟩ => ⟨hnone, by omega, hlt⟩
  · intro left right hleft hright hslot
    rcases List.mem_append.mp hleft with hleft | hleft <;>
      rcases List.mem_append.mp hright with hright | hright
    · exact hfirst.named hleft hright hslot
    · obtain ⟨hbound, hother⟩ := hcommon hleft hright hslot
      exact hbounds.distinct hbound (hslot ▸ hother)
    · obtain ⟨hother, hbound⟩ := hcommon hright hleft hslot.symm
      exact hbounds.distinct hbound (hslot ▸ hother)
    · exact hsecond.named hleft hright hslot
  · intro earlier later hearlier hlater hname hreaches
    rcases List.mem_append.mp hearlier with hearlier | hearlier <;>
      rcases List.mem_append.mp hlater with hlater | hlater
    · exact hfirst.agree hearlier hlater hname hreaches
    · exact absurd hreaches (hapart earlier hearlier later hlater).1
    · exact absurd hreaches (hapart later hlater earlier hearlier).2
    · exact hsecond.agree hearlier hlater hname hreaches
  · intro left right hleft hright hslot
    rcases List.mem_append.mp hleft with hleft | hleft <;>
      rcases List.mem_append.mp hright with hright | hright
    · refine (hfirst.shared hleft hright hslot).imp_right ?_
      rintro ⟨origin, hmem, horigin⟩
      exact ⟨origin, List.mem_append_left _ hmem, horigin⟩
    · exact Or.inl (hcommon hleft hright hslot).1
    · exact Or.inl (hcommon hright hleft hslot.symm).2
    · refine (hsecond.shared hleft hright hslot).imp_right ?_
      rintro ⟨origin, hmem, horigin⟩
      exact ⟨origin, List.mem_append_right _ hmem, horigin⟩

theorem within {references : List Reference} (hslotted : Slotted bound low high references)
    (index : Nat) (side : Bool) :
    Slotted bound low high (references.map (Reference.within index side)) := by
  constructor
  · rintro _ hmem
    obtain ⟨reference, hreference, rfl⟩ := List.mem_map.mp hmem
    have hassigned := hslotted.assigned hreference
    exact hassigned
  · intro _ _ hleft hright hslot
    obtain ⟨left, hfirst, rfl⟩ := List.mem_map.mp hleft
    obtain ⟨right, hsecond, rfl⟩ := List.mem_map.mp hright
    have hname := hslotted.named hfirst hsecond hslot
    exact hname
  · intro _ _ hearlier hlater hname hreaches
    obtain ⟨earlier, hfirst, rfl⟩ := List.mem_map.mp hearlier
    obtain ⟨later, hsecond, rfl⟩ := List.mem_map.mp hlater
    have hslot := hslotted.agree hfirst hsecond hname
      (Reference.within_reaches_within_iff.mp hreaches)
    exact hslot
  · intro _ _ hleft hright hslot
    obtain ⟨left, hfirst, rfl⟩ := List.mem_map.mp hleft
    obtain ⟨right, hsecond, rfl⟩ := List.mem_map.mp hright
    refine (hslotted.shared hfirst hsecond hslot).imp_right ?_
    rintro ⟨origin, hmem, horigin, hleftSight, hrightSight⟩
    exact ⟨origin.within index side, List.mem_map_of_mem hmem, horigin,
      Reference.within_reaches_within_iff.mpr hleftSight,
      Reference.within_reaches_within_iff.mpr hrightSight⟩

/-- The references to a bound tag are those that have its slot. -/
theorem slot_eq_iff (hbounds : Bounds bound low) {references : List Reference}
    (hslotted : Slotted bound low high references) {name : String} {slot : Nat}
    (hslot : bound name = some slot) {reference : Reference} (hmem : reference ∈ references) :
    reference.slot = slot ↔ reference.name = name := by
  have hassigned := hslotted.assigned hmem
  constructor
  · rintro rfl
    rcases hassigned with hbound | ⟨_, hnew, _⟩
    · exact hbounds.distinct hbound hslot
    · have hbelow := hbounds.below hslot
      omega
  · rintro rfl
    rw [hslot] at hassigned
    rcases hassigned with hbound | ⟨hnone, _⟩
    · exact (Option.some.inj hbound).symm
    · cases hnone

/-- A reference before all others of a sequence binds its tag for them. -/
theorem bind {scope opened : Scope} (hvalid : scope.Valid) {reference : Reference}
    (hbind : scope.bind reference.name = (reference.slot, opened)) (hhigh : opened.next ≤ high)
    {references : List Reference} (hslotted : Slotted opened.slot? opened.next high references)
    (hreaches : ∀ later ∈ references, reference.Reaches later) :
    Slotted scope.slot? scope.next high (reference :: references) := by
  obtain ⟨hopened, hextends, _⟩ := hvalid.bind hbind
  have hslot := Scope.slot?_bind hbind
  have hnext := hextends.next
  have hbelow := hopened.bounds.below hslot
  have hfirst : scope.slot? reference.name = some reference.slot ∨
      scope.slot? reference.name = none ∧ scope.next ≤ reference.slot ∧ reference.slot < high := by
    rcases Scope.bind_cases hbind with ⟨hsome, _⟩ | ⟨hnone, hnew, _, _⟩
    · exact Or.inl hsome
    · exact Or.inr ⟨hnone, by omega, by omega⟩
  have hall : ∀ later ∈ reference :: references, reference.Reaches later :=
    List.forall_mem_cons.mpr ⟨Reference.Reaches.refl reference, hreaches⟩
  -- the references to the tag have its slot, and the others are as if it were not bound here
  have hown : ∀ later ∈ reference :: references,
      later.slot = reference.slot ↔ later.name = reference.name :=
    List.forall_mem_cons.mpr ⟨iff_of_true rfl rfl,
      fun later hmem => slot_eq_iff hopened.bounds hslotted hslot hmem⟩
  have hother : ∀ later ∈ reference :: references, later.name ≠ reference.name →
      later ∈ references ∧ opened.slot? later.name = scope.slot? later.name := by
    intro later hmem hne
    refine ⟨(List.mem_cons.mp hmem).resolve_left ?_, Scope.slot?_bind_of_ne hbind hne⟩
    rintro rfl
    exact hne rfl
  have hboth : ∀ left ∈ reference :: references, ∀ right ∈ reference :: references,
      left.slot = right.slot → (left.name = reference.name ↔ right.name = reference.name) := by
    intro left hleft right hright heq
    rw [← hown left hleft, ← hown right hright, heq]
  constructor
  · intro later hmem
    by_cases hname : later.name = reference.name
    · rw [hname, (hown later hmem).mpr hname]
      exact hfirst
    · obtain ⟨hrest, hbound⟩ := hother later hmem hname
      rw [← hbound]
      exact (hslotted.assigned hrest).imp_right fun ⟨hnone, hge, hlt⟩ => ⟨hnone, by omega, hlt⟩
  · intro left right hleft hright heq
    have hsame := hboth left hleft right hright heq
    by_cases hname : left.name = reference.name
    · rw [hname, hsame.mp hname]
    · have hne := mt hsame.mpr hname
      exact hslotted.named (hother left hleft hname).1 (hother right hright hne).1 heq
  · intro earlier later hearlier hlater heq hsight
    by_cases hname : earlier.name = reference.name
    · rw [(hown earlier hearlier).mpr hname, (hown later hlater).mpr (heq.symm.trans hname)]
    · have hne : later.name ≠ reference.name := fun h => hname (heq.trans h)
      exact hslotted.agree (hother earlier hearlier hname).1 (hother later hlater hne).1 heq hsight
  · intro left right hleft hright heq
    by_cases hname : left.name = reference.name
    · have hslotLeft := (hown left hleft).mpr hname
      exact Or.inr ⟨reference, List.mem_cons_self, hslotLeft.symm, hall left hleft,
        hall right hright⟩
    · have hne := mt (hboth left hleft right hright heq).mpr hname
      obtain ⟨hrest, hbound⟩ := hother left hleft hname
      rcases hslotted.shared hrest (hother right hright hne).1 heq with
        hsome | ⟨origin, hmem, horigin⟩
      · exact Or.inl (hbound ▸ hsome)
      · exact Or.inr ⟨origin, List.mem_cons_of_mem _ hmem, horigin⟩

end Slotted

/-! ## Slots of a tree -/

section Compile

variable {queries : String → Option Predicate} {scope final : Scope} {name : String}
  {rest : List Node} {steps : List Step}

theorem placedBranch_eq (no : Option (List Node)) (scope : Scope) :
    placedBranch queries no scope = placedAll queries 0 (no.getD []) scope := by
  cases no <;> rfl

theorem placedAll_tag {slot : Nat} {opened : Scope} (hbind : scope.bind name = (slot, opened))
    (index : Nat) : placedAll queries index (.tag name :: rest) scope =
      { scope := [], index, name, slot, compiled := true } ::
        placedAll queries (index + 1) rest opened := by
  simp [placedAll, placedOf, compileNode, hbind]

theorem placedAll_conditional {yes : List Node} {no : Option (List Node)} {condition : Condition}
    {opened inner last : Scope} {yesSteps noSteps : List Step}
    (hcondition : conditionOf queries name scope = (condition, opened))
    (hyes : compileAll queries yes opened = (yesSteps, inner))
    (hno : compileAll queries (no.getD []) (opened.leave inner) = (noSteps, last)) (index : Nat) :
    placedAll queries index (.conditional name yes no :: rest) scope =
      condition.references index (!(yesSteps.isEmpty && noSteps.isEmpty)) ++
        (((placedAll queries 0 yes opened).map (Reference.within index true) ++
          (placedAll queries 0 (no.getD []) (opened.leave inner)).map
            (Reference.within index false)) ++
          placedAll queries (index + 1) rest (opened.leave last)) := by
  simp only [placedAll, placedOf, compileNode, compileBranch_eq, placedBranch_eq, hcondition, hyes,
    hno, List.append_assoc]

theorem lead_of_mem_condition {condition : Condition} {index : Nat} {compiled : Bool}
    {reference : Reference} (hmem : reference ∈ condition.references index compiled) :
    reference.lead = index := by
  cases condition with
  | query predicate => cases hmem
  | tag slot name =>
      cases List.mem_singleton.mp hmem
      rfl

/-- A node holds the references that it makes. -/
theorem lead_of_mem_placedOf {node : Node} {index : Nat} {reference : Reference}
    (hmem : reference ∈ placedOf queries index node scope) : reference.lead = index := by
  cases node with
  | literal text => cases hmem
  | tag name =>
      cases List.mem_singleton.mp hmem
      rfl
  | conditional name yes no =>
      simp only [placedOf, List.mem_append, List.mem_map] at hmem
      rcases hmem with hmem | ⟨original, _, rfl⟩ | ⟨original, _, rfl⟩
      · exact lead_of_mem_condition hmem
      · rfl
      · rfl

/-- The nodes of a sequence hold its references, from the given index on. -/
theorem le_lead {nodes : List Node} {index : Nat} {reference : Reference}
    (hmem : reference ∈ placedAll queries index nodes scope) : index ≤ reference.lead := by
  induction nodes generalizing index scope with
  | nil => cases hmem
  | cons node rest ih =>
      rw [placedAll, List.mem_append] at hmem
      rcases hmem with hmem | hmem
      · exact Nat.le_of_eq (lead_of_mem_placedOf hmem).symm
      · exact Nat.le_of_succ_le (ih hmem)

/-- What is referred to in one branch of a conditional and what is in the other, or behind the
conditional, is not in sight of each other. -/
theorem apart_of_sides {first second : List Reference} (index : Nat) :
    ∀ left ∈ first.map (Reference.within index true),
      ∀ right ∈ second.map (Reference.within index false),
        ¬left.Reaches right ∧ ¬right.Reaches left := by
  intro left hleft right hright
  obtain ⟨left, _, rfl⟩ := List.mem_map.mp hleft
  obtain ⟨right, _, rfl⟩ := List.mem_map.mp hright
  constructor
  · intro hreaches
    obtain ⟨inner, hscope⟩ := Reference.within_reaches hreaches
    cases hscope
  · intro hreaches
    obtain ⟨inner, hscope⟩ := Reference.within_reaches hreaches
    cases hscope

theorem apart_of_within {index : Nat} {reference : Reference} {side : Bool}
    (hmem : reference ∈ placedAll queries (index + 1) rest scope) (inside : Reference) :
    ¬(inside.within index side).Reaches reference ∧
      ¬reference.Reaches (inside.within index side) := by
  have hlead := le_lead hmem
  constructor
  · intro hreaches
    obtain ⟨inner, hscope⟩ := Reference.within_reaches hreaches
    rw [Reference.lead, hscope, Reference.position] at hlead
    omega
  · intro hreaches
    have hle := hreaches.lead_le
    change reference.lead ≤ index at hle
    omega

/-- Compiling a sequence gives its references slots from those that are bound around it and from new
ones. -/
theorem slotted_placedAll {nodes : List Node} (hvalid : scope.Valid)
    (hcompile : compileAll queries nodes scope = (steps, final)) (index : Nat) :
    Slotted scope.slot? scope.next final.next (placedAll queries index nodes scope) := by
  induction nodes using sequence_induction generalizing scope steps final index with
  | nil =>
      cases hcompile
      exact .nil _ _
  | literal text rest ih =>
      cases hcompile
      exact ih hvalid rfl (index + 1)
  | tag name rest ih =>
      obtain ⟨slot, opened, later, hbind, hrest, _⟩ := compileAll_tag hcompile
      obtain ⟨hopened, _⟩ := hvalid.bind hbind
      obtain ⟨_, hextends⟩ := compileAll_valid hopened hrest
      rw [placedAll_tag hbind]
      refine .bind hvalid hbind hextends.next (ih hopened hrest (index + 1)) fun later hmem => ?_
      exact Reference.reaches_of_lead rfl (Nat.le_of_succ_le (le_lead hmem))
  | conditional name yes no rest ihyes ihno ihrest =>
      obtain ⟨condition, opened, yesSteps, inner, noSteps, last, later, hcondition, hyes, hno,
        hrest, _⟩ := compileAll_conditional hcompile
      have hbranches := branches_of_compileAll hvalid hcondition hyes hno
      obtain ⟨_, hfinal⟩ := compileAll_valid hbranches.valid_after hrest
      have hfirst := (ihyes hbranches.valid hyes 0).within index true
      have hsecond := (ihno hbranches.valid_between hno 0).within index false
      have hboth : Slotted opened.slot? opened.next last.next _ :=
        hfirst.append hbranches.valid.bounds hbranches.first.next hbranches.second.next hsecond
          (apart_of_sides index)
      have hall : Slotted opened.slot? opened.next final.next _ :=
        hboth.append hbranches.valid.bounds hbranches.both.next hfinal.next
          (ihrest hbranches.valid_after hrest (index + 1)) (by
            intro left hleft right hright
            rcases List.mem_append.mp hleft with hleft | hleft
            · obtain ⟨left, _, rfl⟩ := List.mem_map.mp hleft
              exact apart_of_within hright left
            · obtain ⟨left, _, rfl⟩ := List.mem_map.mp hleft
              exact apart_of_within hright left)
      rw [placedAll_conditional hcondition hyes hno]
      rcases conditionOf_cases hcondition with ⟨_, _, rfl, rfl⟩ | ⟨slot, _, rfl, hbind⟩
      · exact hall
      · have hnext := Nat.le_trans hbranches.both.next hfinal.next
        rw [Condition.references, List.singleton_append]
        refine .bind hvalid hbind hnext hall fun later hmem => ?_
        refine Reference.reaches_of_lead rfl ?_
        rcases List.mem_append.mp hmem with hmem | hmem
        · rcases List.mem_append.mp hmem with hmem | hmem
          · obtain ⟨original, _, rfl⟩ := List.mem_map.mp hmem
            exact Nat.le_refl _
          · obtain ⟨original, _, rfl⟩ := List.mem_map.mp hmem
            exact Nat.le_refl _
        · have hlead := le_lead hmem
          exact Nat.le_of_succ_le hlead

/-- The references of a sequence have the names of its tags, in order. -/
theorem map_name_placedAll (nodes : List Node) (scope : Scope) (index : Nat) :
    (placedAll queries index nodes scope).map Reference.name = namesOfAll queries nodes := by
  induction nodes using sequence_induction generalizing scope index with
  | nil => rfl
  | literal text rest ih => exact ih _ (index + 1)
  | tag name rest ih =>
      rw [placedAll_tag rfl, List.map_cons, ih]
      rfl
  | conditional name yes no rest ihyes ihno ihrest =>
      have hwithin : ∀ (side : Bool) (references : List Reference),
          (references.map (Reference.within index side)).map Reference.name =
            references.map Reference.name := fun side references => by
        rw [List.map_map]
        rfl
      have hno : namesOfBranch queries no = namesOfAll queries (no.getD []) := by
        cases no <;> rfl
      rcases hcondition : conditionOf queries name scope with ⟨condition, opened⟩
      rw [placedAll_conditional hcondition rfl rfl]
      simp only [List.map_append, hwithin, ihyes, ihno, ihrest, namesOfAll, namesOfNode, hno,
        List.append_assoc]
      rcases conditionOf_cases hcondition with ⟨_, hquery, rfl, _⟩ | ⟨slot, hquery, rfl, _⟩
      · simp [Condition.references, hquery]
      · simp [Condition.references, hquery]

end Compile

/-! ## Slots of a program -/

/-- The slot that a condition reads, with its tag. -/
def Condition.uses : Condition → List (Nat × String)
  | query _ => []
  | tag slot name => [(slot, name)]

mutual

/-- The slots that a step reads, in its branches as well, with their tags. -/
def Step.uses : Step → List (Nat × String)
  | .literal _ => []
  | .value slot name => [(slot, name)]
  | .branch condition yes no => condition.uses ++ (usesAll yes ++ usesAll no)

/-- The slots that several steps read, with their tags. -/
def usesAll : List Step → List (Nat × String)
  | [] => []
  | step :: rest => step.uses ++ usesAll rest

end

theorem usesAll_append (first second : List Step) :
    usesAll (first ++ second) = usesAll first ++ usesAll second := by
  induction first with
  | nil => rfl
  | cons step rest ih => simp [usesAll, ih]

/-- The slots of the references that a program has steps for, with their tags. -/
def compiledUses (references : List Reference) : List (Nat × String) :=
  (references.filter Reference.compiled).map fun reference => (reference.slot, reference.name)

theorem compiledUses_append (first second : List Reference) :
    compiledUses (first ++ second) = compiledUses first ++ compiledUses second := by
  simp [compiledUses]

theorem compiledUses_within (index : Nat) (side : Bool) (references : List Reference) :
    compiledUses (references.map (Reference.within index side)) = compiledUses references := by
  rw [compiledUses, List.filter_map, List.map_map]
  rfl

theorem compiledUses_condition (condition : Condition) (index : Nat) (compiled : Bool) :
    compiledUses (condition.references index compiled) = if compiled then condition.uses else [] := by
  cases condition <;> cases compiled <;> rfl

theorem usesAll_branchSteps (condition : Condition) (yes no : List Step) :
    usesAll (branchSteps condition yes no) =
      (if !(yes.isEmpty && no.isEmpty) then condition.uses else []) ++
        (usesAll yes ++ usesAll no) := by
  unfold branchSteps
  split
  next hempty =>
    simp only [Bool.and_eq_true, List.isEmpty_iff] at hempty
    obtain ⟨rfl, rfl⟩ := hempty
    rfl
  next hsome => simp [usesAll, Step.uses, hsome]

/-- The steps of a sequence read the slots of its references. -/
theorem usesAll_compileAll {queries : String → Option Predicate} {nodes : List Node}
    {scope final : Scope} {steps : List Step}
    (hcompile : compileAll queries nodes scope = (steps, final)) (index : Nat) :
    usesAll steps = compiledUses (placedAll queries index nodes scope) := by
  induction nodes using sequence_induction generalizing scope steps final index with
  | nil =>
      cases hcompile
      rfl
  | literal text rest ih =>
      cases hcompile
      exact ih rfl (index + 1)
  | tag name rest ih =>
      obtain ⟨slot, opened, later, hbind, hrest, rfl⟩ := compileAll_tag hcompile
      rw [placedAll_tag hbind, usesAll, ih hrest (index + 1)]
      rfl
  | conditional name yes no rest ihyes ihno ihrest =>
      obtain ⟨condition, opened, yesSteps, inner, noSteps, last, later, hcondition, hyes, hno,
        hrest, rfl⟩ := compileAll_conditional hcompile
      rw [placedAll_conditional hcondition hyes hno, usesAll_append, usesAll_branchSteps,
        ihyes hyes 0, ihno hno 0, ihrest hrest (index + 1)]
      simp only [compiledUses_append, compiledUses_within, compiledUses_condition,
        List.append_assoc]

section Tree

variable (queries : String → Option Predicate) (nodes : List Node)

theorem slotted_references :
    Slotted (fun _ => none) 0 (compile queries nodes).slots (references queries nodes) :=
  slotted_placedAll Scope.valid_empty rfl 0

theorem usesAll_compile :
    usesAll (compile queries nodes).steps = compiledUses (references queries nodes) :=
  usesAll_compileAll rfl 0

theorem map_name_references :
    (references queries nodes).map Reference.name = namesOfAll queries nodes :=
  map_name_placedAll nodes {} 0

variable {queries nodes}

theorem slot_lt {reference : Reference} (hmem : reference ∈ references queries nodes) :
    reference.slot < (compile queries nodes).slots := by
  rcases (slotted_references queries nodes).assigned hmem with hbound | ⟨_, _, hlt⟩
  · cases hbound
  · exact hlt

/-- References have the same slot only where one reference to their tag is in sight of both. -/
theorem exists_origin {left right : Reference} (hleft : left ∈ references queries nodes)
    (hright : right ∈ references queries nodes) (hslot : left.slot = right.slot) :
    ∃ origin ∈ references queries nodes, origin.name = left.name ∧ origin.Reaches left ∧
      origin.Reaches right := by
  have hslotted := slotted_references queries nodes
  rcases hslotted.shared hleft hright hslot with hbound | ⟨origin, hmem, hown, hsight⟩
  · cases hbound
  · exact ⟨origin, hmem, hslotted.named hmem hleft hown, hsight⟩

/-- What lies in a branch has no slot in common with what lies outside of it, unless their tag is
referred to before the branch. -/
theorem slot_ne_of_branch {inside outside : Reference} {branch : List (Nat × Bool)}
    (hinside : inside ∈ references queries nodes) (houtside : outside ∈ references queries nodes)
    (hbranch : branch <+: inside.scope) (hleave : ¬branch <+: outside.scope)
    (hfirst : ∀ origin ∈ references queries nodes, origin.name = inside.name →
      origin.scope <+: outside.scope → ¬origin.Precedes branch) :
    inside.slot ≠ outside.slot := by
  intro hslot
  obtain ⟨origin, hmem, hname, ⟨inner, hscope, hindex⟩, ⟨other, hother, _⟩⟩ :=
    exists_origin hinside houtside hslot
  have haround : origin.scope <+: outside.scope := ⟨other, hother.symm⟩
  have hwithin : origin.scope <+: inside.scope := ⟨inner, hscope.symm⟩
  rcases List.prefix_or_prefix_of_prefix hbranch hwithin with hle | hle
  · exact hleave (hle.trans haround)
  · obtain ⟨rest, rfl⟩ := hle
    cases rest with
    | nil =>
        rw [List.append_nil] at hleave
        exact hleave haround
    | cons entry rest =>
        obtain ⟨after, hafter⟩ := hbranch
        rw [hscope, List.append_assoc, List.append_cancel_left_eq] at hafter
        subst inner
        exact hfirst origin hmem hname haround ⟨entry.1, entry.2, rest, rfl, hindex⟩

end Tree

end Songbook.Pattern
