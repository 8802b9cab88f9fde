import Songbook.Pattern.Parser

/-!
# Nodes and the tokens they are made from

Tokens that make no tag expression are dropped, at whatever depth they stand, and reading goes on
behind them. However that comes out, each node of a sequence is made from tokens of its own, and in
their order. What holds of all that is read follows from this by one case for each kind of node.
-/

namespace Songbook.Pattern

/-! ## Keeping and dropping tokens -/

/-- Nodes that are made from tokens in which any others are dropped, with so many tag expressions
allowed inside each other. Among the dropped ones is the bar before a second branch. -/
inductive Kept : (allowed : Nat) → List Token → List Node → Prop
  | nil {allowed} : Kept allowed [] []
  | dropped {allowed token tokens nodes} (hrest : Kept allowed tokens nodes) :
      Kept allowed (token :: tokens) nodes
  | literal {allowed literal tokens nodes} (hrest : Kept allowed tokens nodes) :
      Kept allowed (.text literal :: tokens) (.literal (String.ofList literal) :: nodes)
  | tag {allowed name tokens nodes} (hrest : Kept (allowed + 1) tokens nodes) :
      Kept (allowed + 1) (.opening :: .text name :: .closing :: tokens)
        (.tag (tiedName (String.ofList name)) :: nodes)
  | conditional {allowed name first second tokens yes no nodes}
      (hshows : yes ≠ [] ∨ no.getD [] ≠ []) (hyes : Kept allowed first yes)
      (hno : Kept allowed second (no.getD [])) (hrest : Kept (allowed + 1) tokens nodes) :
      Kept (allowed + 1) (.opening :: .text name :: .bar :: (first ++ second ++ .closing :: tokens))
        (.conditional (tiedName (String.ofList name)) yes no :: nodes)

namespace Kept

variable {allowed : Nat} {first second tokens : List Token} {nodes more : List Node}

theorem drop_append (first : List Token) (htokens : Kept allowed tokens nodes) :
    Kept allowed (first ++ tokens) nodes := by
  induction first with
  | nil => exact htokens
  | cons token first ih => exact .dropped ih

theorem none (tokens : List Token) : Kept allowed tokens [] := by
  simpa using drop_append tokens .nil

theorem append (hfirst : Kept allowed first nodes) (hsecond : Kept allowed second more) :
    Kept allowed (first ++ second) (nodes ++ more) := by
  induction hfirst with
  | nil => exact hsecond
  | dropped hrest ih => exact .dropped (ih hsecond)
  | literal hrest ih => exact .literal (ih hsecond)
  | tag hrest ih => exact .tag (ih hsecond)
  | conditional hshows hyes hno hrest ihyes ihno ih =>
      simp only [List.cons_append, List.append_assoc]
      rw [← List.append_assoc]
      exact .conditional hshows hyes hno (ih hsecond)

end Kept

/-! ## Reading keeps nodes -/

/-- A reader whose nodes are made from the tokens that it takes. -/
def Keeps (allowed : Nat) (branch : Branch) : Prop :=
  ∀ tokens, ∃ used, tokens = used ++ (branch tokens).2 ∧ Kept allowed used (branch tokens).1

theorem resync_suffix (tokens : List Token) : resync tokens <:+ tokens := by
  induction tokens with
  | nil => exact List.suffix_rfl
  | cons token rest ih =>
      rw [resync]
      split
      · exact List.suffix_rfl
      · exact ih.trans (List.suffix_cons _ _)

/-- A tag expression is made if its `>` follows and it can show something, and dropped otherwise. -/
theorem close_cases (node : Node) (tokens : List Token) :
    (∃ rest, tokens = .closing :: rest ∧ node.isVoid = false ∧
      close node tokens = (some node, rest)) ∨
    ∃ rest, rest <:+ tokens ∧ close node tokens = (none, rest) := by
  unfold close
  split
  next rest =>
    split
    next => exact Or.inr ⟨rest, List.suffix_cons _ _, rfl⟩
    next hvoid => exact Or.inl ⟨rest, rfl, Bool.eq_false_iff.mpr hvoid, rfl⟩
  next => exact Or.inr ⟨_, resync_suffix tokens, rfl⟩

/-- What a tag expression is made from follows its `<`. -/
def MakesFrom (allowed : Nat) (tokens : List Token) (read : Option Node × List Token) : Prop :=
  ∃ used, tokens = used ++ read.2 ∧ Kept allowed (.opening :: used) read.1.toList

theorem MakesFrom.of_suffix {allowed : Nat} {tokens rest : List Token} (hrest : rest <:+ tokens) :
    MakesFrom allowed tokens (none, rest) := by
  obtain ⟨used, hused⟩ := hrest
  exact ⟨used, hused.symm, .none _⟩

/-- A conditional is made from the tokens of its branches, if it is closed behind them. -/
theorem close_makesFrom {allowed : Nat} {name : List Char} {first second rest : List Token}
    {yes : List Node} {no : Option (List Node)} (hyes : Kept allowed first yes)
    (hno : Kept allowed second (no.getD [])) :
    MakesFrom (allowed + 1) (.text name :: .bar :: (first ++ second ++ rest))
      (close (.conditional (tiedName (String.ofList name)) yes no) rest) := by
  rcases close_cases (.conditional (tiedName (String.ofList name)) yes no) rest with
    ⟨after, rfl, hvoid, hclose⟩ | ⟨after, hsuffix, hclose⟩
  · have hshows : yes ≠ [] ∨ no.getD [] ≠ [] := by
      rw [Node.isVoid, Bool.and_eq_false_iff] at hvoid
      simpa using hvoid
    rw [hclose]
    exact ⟨.text name :: .bar :: (first ++ second ++ [.closing]), by simp,
      .conditional hshows hyes hno .nil⟩
  · rw [hclose]
    exact .of_suffix (hsuffix.trans ⟨.text name :: .bar :: (first ++ second), rfl⟩)

theorem expression_makesFrom {allowed : Nat} {branch : Branch} (hbranch : Keeps allowed branch)
    (tokens : List Token) :
    MakesFrom (allowed + 1) tokens (expression (some branch) tokens) := by
  unfold expression
  split
  next chosen name rest hchosen =>
    cases hchosen
    obtain ⟨first, hfirst, hyes⟩ := hbranch rest
    dsimp only
    split
    next after hbar =>
      obtain ⟨second, hsecond, hno⟩ := hbranch after
      have hrest : rest = first ++ .bar :: second ++ (branch after).2 := by
        rw [hfirst, hbar, List.append_assoc, List.cons_append, ← hsecond]
      conv => enter [2]; rw [hrest]
      exact close_makesFrom hyes (.dropped hno)
    next =>
      have hnone : MakesFrom (allowed + 1)
          (.text name :: .bar :: (first ++ [] ++ (branch rest).2))
          (close (.conditional (tiedName (String.ofList name)) (branch rest).1 none)
            (branch rest).2) := close_makesFrom hyes .nil
      rwa [List.append_nil, ← hfirst] at hnone
  next chosen name rest _ hchosen =>
    rcases close_cases (.tag (tiedName (String.ofList name))) rest with
      ⟨after, rfl, _, hclose⟩ | ⟨after, hsuffix, hclose⟩
    · rw [hclose]
      exact ⟨[.text name, .closing], rfl, .tag .nil⟩
    · rw [hclose]
      exact .of_suffix (hsuffix.trans (List.suffix_cons _ _))
  next => exact .of_suffix (resync_suffix _)

theorem nodes_keeps {allowed : Nat} {branch? : Option Branch}
    (hexpression : ∀ tokens, MakesFrom allowed tokens (expression branch? tokens)) (rounds : Nat) :
    Keeps allowed (nodes branch? rounds) := by
  induction rounds with
  | zero => exact fun tokens => ⟨[], rfl, .nil⟩
  | succ rounds ih =>
      intro tokens
      rw [nodes.eq_def]
      split
      next => exact ⟨[], rfl, .nil⟩
      next literal rest heq =>
        cases heq
        obtain ⟨used, hused, hkept⟩ := ih rest
        exact ⟨.text literal :: used, congrArg (.text literal :: ·) hused, .literal hkept⟩
      next rest heq =>
        cases heq
        obtain ⟨front, hfront, hnode⟩ := hexpression rest
        obtain ⟨used, hused, hkept⟩ := ih (expression branch? rest).2
        refine ⟨.opening :: front ++ used, ?_, hnode.append hkept⟩
        rw [List.cons_append, List.cons_append, List.append_assoc, ← hused, ← hfront]
      next => exact ⟨[], rfl, .nil⟩

/-- A sequence is made from the tokens that are taken for it. -/
theorem sequence_keeps (allowed : Nat) : Keeps allowed (sequence allowed) := by
  induction allowed with
  | zero => exact fun tokens => nodes_keeps (fun _ => .of_suffix (resync_suffix _)) _ tokens
  | succ allowed ih => exact fun tokens => nodes_keeps (expression_makesFrom ih) _ tokens

end Songbook.Pattern
