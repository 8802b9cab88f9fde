import Songbook.Proofs.Pattern.Kept

/-!
# How patterns are read

Sequences are read in rounds, one for each node, and a round for each token is always enough. What
stands at the front of the tokens therefore decides how reading goes on, whatever the rounds: there
is one equation for a text, one for a tag expression, and one for the end of a sequence.
-/

namespace Songbook.Pattern

/-! ## Names -/

/-- A name that ties nothing is used as it is written. -/
theorem tiedName_of_untied {name : String}
    (huntied : Tag.isSynthetic name = true ∨ Tag.sigil ∉ name.toList) : tiedName name = name := by
  unfold tiedName
  rw [if_neg]
  rcases huntied with hsynthetic | hsigil
  · simp [hsynthetic]
  · simp [hsigil]

/-- Any other name with a `~` in it gets one in front. -/
theorem tiedName_of_tied {name : String} (hsynthetic : Tag.isSynthetic name = false)
    (hsigil : Tag.sigil ∈ name.toList) :
    tiedName name = String.ofList (Tag.sigil :: name.toList) := by
  simp [tiedName, hsynthetic, hsigil]

/-! ## Rounds -/

/-- A reader of branches that leaves no more tokens than it is given. -/
def Shrinks (branch : Branch) : Prop :=
  ∀ tokens, (branch tokens).2.length ≤ tokens.length

/-- A reader that takes nodes from the front of the tokens leaves a part of them. -/
theorem Keeps.shrinks {allowed : Nat} {branch : Branch} (hkeeps : Keeps allowed branch) :
    Shrinks branch := by
  intro tokens
  obtain ⟨used, hused, _⟩ := hkeeps tokens
  exact List.IsSuffix.length_le ⟨used, hused.symm⟩

theorem sequence_shrinks (allowed : Nat) : Shrinks (sequence allowed) :=
  (sequence_keeps allowed).shrinks

/-- What reads the branches of a sequence in which so many tag expressions may still be opened
inside each other. -/
def inner? : (allowed : Nat) → Option Branch
  | 0 => none
  | allowed + 1 => some (sequence allowed)

theorem length_expression_le (allowed : Nat) (tokens : List Token) :
    (expression (inner? allowed) tokens).2.length ≤ tokens.length := by
  cases allowed with
  | zero => exact (resync_suffix _).length_le
  | succ allowed =>
      obtain ⟨used, hused, _⟩ := expression_makesFrom (sequence_keeps allowed) tokens
      exact List.IsSuffix.length_le ⟨used, hused.symm⟩

theorem nodes_opening (branch? : Option Branch) (rounds : Nat) (rest : List Token) :
    nodes branch? (rounds + 1) (.opening :: rest) =
      ((expression branch? rest).1.toList ++ (nodes branch? rounds (expression branch? rest).2).1,
        (nodes branch? rounds (expression branch? rest).2).2) :=
  rfl

/-- More rounds than there are tokens change nothing. -/
theorem nodes_rounds {allowed rounds more : Nat} {tokens : List Token}
    (hrounds : tokens.length ≤ rounds) (hmore : tokens.length ≤ more) :
    nodes (inner? allowed) rounds tokens = nodes (inner? allowed) more tokens := by
  induction rounds generalizing more tokens with
  | zero =>
      cases List.length_eq_zero_iff.mp (Nat.le_zero.mp hrounds)
      cases more <;> rfl
  | succ rounds ih =>
      cases tokens with
      | nil => cases more <;> rfl
      | cons token rest =>
          obtain ⟨more, rfl⟩ := Nat.exists_eq_succ_of_ne_zero (Nat.ne_zero_of_lt hmore)
          simp only [List.length_cons, Nat.succ_eq_add_one, Nat.add_le_add_iff_right]
            at hrounds hmore
          cases token with
          | text literal => rw [nodes, nodes, ih hrounds hmore]
          | opening =>
              have hexpression := length_expression_le allowed rest
              rw [nodes_opening, nodes_opening, ih (Nat.le_trans hexpression hrounds)
                (Nat.le_trans hexpression hmore)]
          | closing | bar | endOfPattern => rfl

/-! ## Sequences -/

theorem sequence_eq_nodes (allowed : Nat) (tokens : List Token) :
    sequence allowed tokens = nodes (inner? allowed) tokens.length tokens := by
  cases allowed <;> rfl

theorem sequence_text (allowed : Nat) (literal : List Char) (rest : List Token) :
    sequence allowed (.text literal :: rest) =
      (.literal (String.ofList literal) :: (sequence allowed rest).1,
        (sequence allowed rest).2) := by
  rw [sequence_eq_nodes, sequence_eq_nodes, List.length_cons, nodes]

theorem sequence_opening (allowed : Nat) (rest : List Token) :
    sequence allowed (.opening :: rest) =
      ((expression (inner? allowed) rest).1.toList ++
          (sequence allowed (expression (inner? allowed) rest).2).1,
        (sequence allowed (expression (inner? allowed) rest).2).2) := by
  rw [sequence_eq_nodes, sequence_eq_nodes, List.length_cons, nodes_opening,
    nodes_rounds (length_expression_le allowed rest) (Nat.le_refl _)]

/-- Tokens at which a sequence ends. -/
def EndsSequence : List Token → Prop
  | .text _ :: _ => False
  | .opening :: _ => False
  | _ => True

theorem sequence_of_end (allowed : Nat) {tokens : List Token} (hend : EndsSequence tokens) :
    sequence allowed tokens = ([], tokens) := by
  rw [sequence_eq_nodes]
  cases tokens with
  | nil => rfl
  | cons token rest =>
      cases token with
      | text literal => cases hend
      | opening => cases hend
      | closing | bar | endOfPattern => rfl

end Songbook.Pattern
