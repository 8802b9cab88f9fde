import Mathlib.Data.List.Chain
import Songbook.Proofs.Query.Rules

/-!
# Height of the trees of queries

The height of a tree counts the nodes on its longest way down. A rule adds at most one node to what
the rules inside it read, and a group of comparisons stands one node above its leaves. So the rules
that may be open bound the height of what is read.
-/

namespace Songbook

namespace Predicate

/-- The predicates that a predicate is made of. -/
def children : Predicate → List Predicate
  | union children => children
  | intersection children => children
  | negation child => [child]
  | tagMatch _ => []
  | comparison _ => []

/-- Nodes of which each is a child of the one before it. -/
def IsDescent (nodes : List Predicate) : Prop :=
  nodes.IsChain fun parent child => child ∈ parent.children

mutual

/-- The number of nodes on the longest way down a tree. -/
def height : Predicate → Nat
  | union children => highest children + 1
  | intersection children => highest children + 1
  | negation child => height child + 1
  | tagMatch _ => 1
  | comparison _ => 1

/-- The height of the highest one of several trees. -/
def highest : List Predicate → Nat
  | [] => 0
  | first :: rest => max (height first) (highest rest)

end

theorem height_eq (predicate : Predicate) :
    predicate.height = highest predicate.children + 1 := by
  cases predicate <;> simp [height, highest, children]

theorem highest_le_iff {predicates : List Predicate} {bound : Nat} :
    highest predicates ≤ bound ↔ ∀ predicate ∈ predicates, predicate.height ≤ bound := by
  induction predicates with
  | nil => simp [highest]
  | cons first rest ih => rw [highest, Nat.max_le, ih, List.forall_mem_cons]

theorem IsDescent.length_le {predicate : Predicate} {below : List Predicate}
    (hdescent : IsDescent (predicate :: below)) :
    (predicate :: below).length ≤ predicate.height := by
  induction below generalizing predicate with
  | nil => simp [height_eq]
  | cons child below ih =>
      obtain ⟨hchild, hbelow⟩ := List.isChain_cons_cons.mp hdescent
      have hheight := highest_le_iff.mp (le_refl (highest predicate.children)) child hchild
      have hlength := ih hbelow
      rw [height_eq, List.length_cons]
      omega

theorem exists_mem_height_eq {predicates : List Predicate} (hne : predicates ≠ []) :
    ∃ predicate ∈ predicates, predicate.height = highest predicates := by
  induction predicates with
  | nil => exact absurd rfl hne
  | cons first rest ih =>
      by_cases hrest : rest = []
      · subst hrest
        exact ⟨first, List.mem_cons_self, (max_eq_left (Nat.zero_le _)).symm⟩
      · obtain ⟨predicate, hmem, hheight⟩ := ih hrest
        rcases le_total (highest rest) first.height with hle | hle
        · exact ⟨first, List.mem_cons_self, (max_eq_left hle).symm⟩
        · exact ⟨predicate, List.mem_cons_of_mem _ hmem, hheight.trans (max_eq_right hle).symm⟩

/-- One of the ways down has as many nodes as the tree is high. -/
theorem exists_descent (predicate : Predicate) :
    ∃ below, IsDescent (predicate :: below) ∧
      (predicate :: below).length = predicate.height := by
  induction hheight : predicate.height using Nat.strong_induction_on generalizing predicate with
  | _ height ih =>
      by_cases hleaf : predicate.children = []
      · refine ⟨[], List.isChain_singleton _, ?_⟩
        rw [← hheight, height_eq, hleaf]
        rfl
      · obtain ⟨child, hchild, hhighest⟩ := exists_mem_height_eq hleaf
        rw [height_eq, ← hhighest] at hheight
        obtain ⟨below, hdescent, hlength⟩ := ih child.height (by omega) child rfl
        refine ⟨child :: below, List.isChain_cons_cons.mpr ⟨hchild, hdescent⟩, ?_⟩
        rw [List.length_cons, hlength, hheight]

theorem height_collapse_le {combine : List Predicate → Predicate}
    (hcombine : ∀ items, (combine items).children = items) (items : List Predicate) :
    (collapse combine items).height ≤ highest items + 1 := by
  unfold collapse
  split
  next only => simp [highest]
  next => rw [height_eq, hcombine]

end Predicate

/-! ## Trees of queries -/

namespace Query

/-- A rule that reads no tree higher than a bound. -/
def ReadsWithin (bound : Nat) (rule : Rule Predicate) : Prop :=
  ∀ {text predicate rest}, rule text = .ok (predicate, rest) → predicate.height ≤ bound

theorem Items.highest_le {item : Rule Predicate} {bound : Nat} (hitem : ReadsWithin bound item)
    {text rest : List Char} {items : List Predicate} (hitems : Items item text items rest) :
    Predicate.highest items ≤ bound := by
  induction hitems with
  | close => exact Nat.zero_le _
  | comma hcomma hfirst hitems ih => exact max_le (hitem hfirst) ih

theorem group_height_le {combine : List Predicate → Predicate} {item : Rule Predicate}
    {bound : Nat} (hcombine : ∀ items, (combine items).children = items)
    (hitem : ReadsWithin bound item) {inner rest : List Char} {predicate : Predicate}
    (hgroup : group combine item ('(' :: inner) = .ok (predicate, rest)) :
    predicate.height ≤ bound + 1 := by
  obtain ⟨first, middle, items, hfirst, hitems, rfl⟩ := group_eq_ok hgroup
  have hhighest : Predicate.highest (first :: items) ≤ bound :=
    max_le (hitem hfirst) (hitems.highest_le hitem)
  have hcollapse := Predicate.height_collapse_le hcombine (first :: items)
  omega

theorem comparison_readsWithin (now : Binary64) : ReadsWithin 1 (comparison now) := by
  intro text predicate rest hcomparison
  obtain ⟨_, _, leaf, _, rfl, _⟩ := comparison_eq_ok_iff.mp hcomparison
  exact le_refl 1

variable [RegexLibrary]

theorem value_readsWithin (names : List String) (allowed : Nat) :
    ReadsWithin allowed (value names allowed) := by
  induction allowed with
  | zero =>
      intro text predicate rest hvalue
      cases hvalue
  | succ allowed ih =>
      intro text predicate rest hvalue
      obtain ⟨_, heq, hstep⟩ := value_cases hvalue
      cases heq
      cases hstep with
      | not hstart hinner => exact Nat.succ_le_succ (ih hinner)
      | all hstart hgroup | any hstart hgroup => exact group_height_le (fun _ => rfl) ih hgroup
      | plain hplain hmatcher => exact Nat.succ_le_succ (Nat.zero_le allowed)

/-- A group of comparisons is one node higher than the rule that reads it. -/
theorem expression_readsWithin (now : Binary64) (allowed : Nat) :
    ReadsWithin (allowed + 1) (expression now allowed) := by
  induction allowed with
  | zero =>
      intro text predicate rest hexpression
      cases hexpression
  | succ allowed ih =>
      intro text predicate rest hexpression
      obtain ⟨_, heq, hstep⟩ := expression_cases hexpression
      cases heq
      cases hstep with
      | all hstart hgroup | any hstart hgroup => exact group_height_le (fun _ => rfl) ih hgroup
      | comparisons hstart hgroup =>
          have hheight := group_height_le (fun _ => rfl) (comparison_readsWithin now) hgroup
          omega
      | not hstart hinner => exact Nat.succ_le_succ (ih hinner)
      | tags hplain hnames hvalue =>
          have hheight := value_readsWithin _ _ hvalue
          omega
      | bare hplain hnames hmatcher => exact Nat.succ_le_succ (Nat.zero_le _)

theorem expressions_highest_le {now : Binary64} {limit rounds : Nat} {text : List Char}
    {items : List Predicate} (hitems : expressions now limit rounds text = .ok items) :
    Predicate.highest items ≤ limit + 1 := by
  induction rounds generalizing text items with
  | zero => cases hitems
  | succ rounds ih =>
      rw [expressions] at hitems
      split at hitems
      next =>
        cases hitems
        exact Nat.zero_le _
      next =>
        split at hitems
        next => cases hitems
        next first rest hfirst =>
          split at hitems
          next => cases hitems
          next more hmore =>
            cases hitems
            exact max_le (expression_readsWithin now limit hfirst) (ih hmore)

theorem parse_height_le {text : String} {now : Binary64} {predicate : Predicate}
    (hparse : parse text now = .ok predicate) : predicate.height ≤ maxDepth + 2 := by
  unfold parse parseWithin at hparse
  split at hparse
  next => cases hparse
  next items hitems =>
    cases hparse
    have hhighest := expressions_highest_le hitems
    have hcollapse : (Predicate.collapse .intersection items).height ≤ _ :=
      Predicate.height_collapse_le (fun _ => rfl) items
    omega

end Query

end Songbook
