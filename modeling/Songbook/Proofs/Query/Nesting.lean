import Songbook.Query.Parser

/-!
# Nesting of queries

The number of rules that may be open bounds which texts are accepted, not what they mean: with one rule
fewer, a text is answered as before or refused as nested too deeply. So a text that is accepted is
accepted alike when more rules may be open.
-/

namespace Songbook.Query

/-- A text is refused because too many rules would be open. -/
def IsTooDeep {α : Type} (result : Except Fault α) : Prop :=
  ∃ rest, result = .error (.misplaced rest .nestedTooDeeply)

/-- A rule that answers as a wider one does, where it does not refuse a text as nested too deeply. -/
def Restricts (narrower wider : Rule Predicate) : Prop :=
  ∀ text, IsTooDeep (narrower text) ∨ narrower text = wider text

section Restricts

variable {narrower wider : Rule Predicate}

theorem Restricts.accepts (hrestricts : Restricts narrower wider) {text rest : List Char}
    {predicate : Predicate} (haccepted : narrower text = .ok (predicate, rest)) :
    wider text = .ok (predicate, rest) := by
  rcases hrestricts text with ⟨place, hrefused⟩ | hsame
  · rw [haccepted] at hrefused
    cases hrefused
  · rw [← hsame, haccepted]

theorem Restricts.trans {widest : Rule Predicate} (hfirst : Restricts narrower wider)
    (hsecond : Restricts wider widest) : Restricts narrower widest := by
  intro text
  rcases hfirst text with hdeep | hsame
  · exact Or.inl hdeep
  · rw [hsame]
    exact hsecond text

theorem negated_restricts (hrestricts : Restricts narrower wider) :
    Restricts (negated narrower) (negated wider) := by
  intro text
  rcases hrestricts text with ⟨place, hrefused⟩ | hsame
  · exact Or.inl ⟨place, by simp only [negated, hrefused]⟩
  · exact Or.inr (by simp only [negated, hsame])

theorem moreItems_restricts (hrestricts : Restricts narrower wider) (opened : List Char)
    (rounds : Nat) (text : List Char) :
    IsTooDeep (moreItems narrower opened rounds text) ∨
      moreItems narrower opened rounds text = moreItems wider opened rounds text := by
  induction rounds generalizing text with
  | zero => exact Or.inr rfl
  | succ rounds ih =>
      rw [moreItems, moreItems]
      generalize Text.trimStart text = start
      split
      next after =>
        rcases hrestricts after with ⟨place, hrefused⟩ | hsame
        · exact Or.inl ⟨place, by rw [hrefused]⟩
        · rw [hsame]
          split
          next => exact Or.inr rfl
          next first rest hfirst =>
            rcases ih rest with ⟨place, hrefused⟩ | hsame
            · exact Or.inl ⟨place, by rw [hrefused]⟩
            · exact Or.inr (by rw [hsame])
      next => exact Or.inr rfl
      next => exact Or.inr rfl
      next => exact Or.inr rfl

theorem group_restricts (combine : List Predicate → Predicate)
    (hrestricts : Restricts narrower wider) :
    Restricts (group combine narrower) (group combine wider) := by
  intro opened
  unfold group
  rcases hrestricts (opened.drop 1) with ⟨place, hrefused⟩ | hsame
  · exact Or.inl ⟨place, by rw [hrefused]⟩
  · rw [hsame]
    split
    next => exact Or.inr rfl
    next first rest hfirst =>
      rcases moreItems_restricts hrestricts opened (rest.length + 1) rest with
        ⟨place, hrefused⟩ | hsame
      · exact Or.inl ⟨place, by rw [hrefused]⟩
      · exact Or.inr (by rw [hsame])

end Restricts

variable [RegexLibrary]

theorem value_restricts (names : List String) (allowed : Nat) :
    Restricts (value names allowed) (value names (allowed + 1)) := by
  induction allowed with
  | zero => exact fun text => Or.inl ⟨text, rfl⟩
  | succ allowed ih =>
      intro text
      rw [value, value]
      generalize Text.trimStart text = start
      split
      next inner => exact negated_restricts ih inner
      next inner => exact group_restricts .intersection ih ('(' :: inner)
      next inner => exact group_restricts .union ih ('(' :: inner)
      next => exact Or.inr rfl

/-- When one rule fewer may be open, an expression is read as before or refused. -/
theorem expression_restricts (now : Binary64) (allowed : Nat) :
    Restricts (expression now allowed) (expression now (allowed + 1)) := by
  induction allowed with
  | zero => exact fun text => Or.inl ⟨text, rfl⟩
  | succ allowed ih =>
      intro text
      rw [expression, expression]
      generalize Text.trimStart text = start
      split
      next inner => exact group_restricts .intersection ih ('(' :: inner)
      next inner => exact group_restricts .union ih ('(' :: inner)
      next => exact Or.inr rfl
      next inner => exact negated_restricts ih inner
      next =>
        split
        next names rest hnames => exact value_restricts names allowed rest
        next => exact Or.inr rfl

/-! ## Several rules fewer -/

theorem value_restricts_add (names : List String) (allowed extra : Nat) :
    Restricts (value names allowed) (value names (extra + allowed)) := by
  induction extra with
  | zero =>
      rw [Nat.zero_add]
      exact fun text => Or.inr rfl
  | succ extra ih =>
      rw [Nat.add_right_comm]
      exact ih.trans (value_restricts names _)

theorem expression_restricts_add (now : Binary64) (allowed extra : Nat) :
    Restricts (expression now allowed) (expression now (extra + allowed)) := by
  induction extra with
  | zero =>
      rw [Nat.zero_add]
      exact fun text => Or.inr rfl
  | succ extra ih =>
      rw [Nat.add_right_comm]
      exact ih.trans (expression_restricts now _)

end Songbook.Query
