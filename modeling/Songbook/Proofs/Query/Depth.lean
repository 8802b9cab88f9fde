import Songbook.Proofs.Query.FaultPlaces
import Songbook.Proofs.Query.Height
import Songbook.Proofs.Query.Nesting

/-!
# Depth of queries

What is read of a query is read with the rules around it still open. At most 128 of them may be open
at once, and one that comes when they are is refused where it starts.

The limit itself only ever refuses. Read with a wider one, a query either comes to a rule under 128
open ones, and then it is refused as nested too deeply, or has the answer that it has anyway.
-/

namespace Songbook.Query

/-! ## Open rules -/

/-- The goals that count as open rules while something inside them is read. -/
def Goal.IsRule : Goal → Prop
  | expression _ => True
  | value _ _ => True
  | comparison => False
  | matching _ => False

/-- How many rules may be opened for a goal. -/
def Goal.allowed : Goal → Nat
  | expression allowed => allowed
  | value _ allowed => allowed
  | comparison => 0
  | matching _ => 0

/-- What is read of a query, and where, if at most `limit` rules may be open, with the goals that are
open at that moment. The innermost one comes first. -/
inductive Reaches [RegexLibrary] (now : Binary64) (limit : Nat) (query : List Char) :
    List Goal → Goal → List Char → Prop
  | top {text} (htop : IsTop now limit query text) (hmore : text ≠ []) :
      Reaches now limit query [] (.expression limit) text
  | step {opened goal text next place} (hreaches : Reaches now limit query opened goal text)
      (hleads : Leads now goal text next place) :
      Reaches now limit query (goal :: opened) next place

variable {now : Binary64} {limit extra : Nat} {query text inner middle place : List Char}
  {opened : List Goal} {goal next item : Goal}

section Library

variable [RegexLibrary]

theorem Leads.isRule (hleads : Leads now goal text next place) : goal.IsRule := by
  cases hleads with
  | item hopens => cases hopens <;> trivial
  | notExpression | notValue | tags | bare | plain => trivial

/-- A goal leads on only if a rule may be opened for it. -/
theorem Leads.allowed_lt (hleads : Leads now goal text next place) :
    next.allowed < goal.allowed := by
  cases hleads with
  | item hopens =>
      cases hopens with
      | expressions | values => exact Nat.lt_succ_self _
      | comparisons => exact Nat.succ_pos _
  | notExpression | notValue | tags => exact Nat.lt_succ_self _
  | bare | plain => exact Nat.succ_pos _

theorem Leads.allowed_eq (hleads : Leads now goal text next place) (hrule : next.IsRule) :
    goal.allowed = next.allowed + 1 := by
  cases hleads with
  | item hopens =>
      cases hopens with
      | expressions | values => rfl
      | comparisons => cases hrule
  | notExpression | notValue | tags => rfl
  | bare | plain => cases hrule

theorem Reaches.isRule_of_mem (hreaches : Reaches now limit query opened goal text) :
    ∀ rule ∈ opened, rule.IsRule := by
  induction hreaches with
  | top => simp
  | step hreaches hleads ih => exact List.forall_mem_cons.mpr ⟨hleads.isRule, ih⟩

/-- The rules that are open and those that may still be opened make up the limit. -/
theorem Reaches.length_add_allowed (hreaches : Reaches now limit query opened goal text) :
    opened.length + goal.allowed ≤ limit ∧
      (goal.IsRule → opened.length + goal.allowed = limit) := by
  induction hreaches with
  | top => simp [Goal.allowed]
  | step hreaches hleads ih =>
      have hopened := ih.2 hleads.isRule
      have hlt := hleads.allowed_lt
      rw [List.length_cons]
      refine ⟨by omega, fun hrule => ?_⟩
      have heq := hleads.allowed_eq hrule
      omega

theorem Reaches.visits (hreaches : Reaches now maxDepth query opened goal text) :
    Visits now query goal text := by
  induction hreaches with
  | top htop hmore => exact .top htop hmore
  | step hreaches hleads ih => exact ih.step hleads

/-- A rule under as many open rules as there may be is refused where it starts. -/
theorem Reaches.expressions_eq (hreaches : Reaches now maxDepth query opened goal text)
    (hrule : goal.IsRule) (hopened : opened.length = maxDepth) :
    expressions now maxDepth (query.length + 1) query =
      .error (.misplaced text .nestedTooDeeply) := by
  have hlimit := hreaches.length_add_allowed.2 hrule
  have hallowed : goal.allowed = 0 := by omega
  refine hreaches.visits.expressions_eq ?_
  cases goal with
  | expression allowed | value names allowed =>
      cases hallowed
      rfl
  | comparison | matching => cases hrule

end Library

/-! ## Wider limits -/

/-- A goal when some more rules may be open. -/
def Goal.widened (extra : Nat) : Goal → Goal
  | expression allowed => expression (extra + allowed)
  | value names allowed => value names (extra + allowed)
  | comparison => comparison
  | matching names => matching names

theorem Goal.isRule_widened : (goal.widened extra).IsRule ↔ goal.IsRule := by
  cases goal <;> exact Iff.rfl

theorem Goal.allowed_widened (hrule : goal.IsRule) (extra : Nat) :
    (goal.widened extra).allowed = extra + goal.allowed := by
  cases goal with
  | expression | value => rfl
  | comparison | matching => cases hrule

theorem Opens.widened (hopens : Opens goal text item inner) (extra : Nat) :
    Opens (goal.widened extra) text (item.widened extra) inner := by
  cases hopens with
  | expressions hmark hstart => exact .expressions hmark hstart
  | comparisons hstart => exact .comparisons hstart
  | values hmark hstart => exact .values hmark hstart

section Library

variable [RegexLibrary]

theorem Goal.rule_restricts (now : Binary64) (extra : Nat) (goal : Goal) :
    Restricts (goal.rule now) ((goal.widened extra).rule now) := by
  cases goal with
  | expression allowed => exact expression_restricts_add now allowed extra
  | value names allowed => exact value_restricts_add names allowed extra
  | comparison | matching => exact fun text => Or.inr rfl

/-! ### From a limit to a wider one -/

theorem AfterItem.widened (hmiddle : AfterItem (item.rule now) inner middle) (extra : Nat) :
    AfterItem ((item.widened extra).rule now) inner middle := by
  have hrestricts := item.rule_restricts now extra
  induction hmiddle with
  | first hread => exact .first (hrestricts.accepts hread)
  | next hmiddle hcomma hread ih => exact .next ih hcomma (hrestricts.accepts hread)

theorem Leads.widened (hleads : Leads now goal text next place) (extra : Nat) :
    Leads now (goal.widened extra) text (next.widened extra) place := by
  cases hleads with
  | item hopens hplace =>
      refine .item (hopens.widened extra) ?_
      cases hplace with
      | first => exact .first
      | next hmiddle hcomma => exact .next (hmiddle.widened extra) hcomma
  | notExpression hstart => exact .notExpression hstart
  | notValue hstart => exact .notValue hstart
  | tags hplain hnames => exact .tags hplain hnames
  | bare hplain hnames => exact .bare hplain hnames
  | plain hplain => exact .plain hplain

theorem IsTop.widened (htop : IsTop now limit query text) (extra : Nat) :
    IsTop now (extra + limit) query text := by
  induction htop with
  | first => exact .first
  | next htop hread ih =>
      exact .next ih ((expression_restricts_add now limit extra).accepts hread)

/-- What is read of a query is read as well when more rules may be open. -/
theorem Visits.reaches (hvisits : Visits now query goal text) (extra : Nat) :
    ∃ opened, Reaches now (extra + maxDepth) query opened (goal.widened extra) text := by
  induction hvisits with
  | top htop hmore => exact ⟨[], .top (htop.widened extra) hmore⟩
  | step hvisits hleads ih =>
      obtain ⟨opened, hreaches⟩ := ih
      exact ⟨_, hreaches.step (hleads.widened extra)⟩

/-! ### From a limit to a narrower one -/

/-- A goal that is not refused as nested too deeply is read alike when more rules may be open. -/
theorem Goal.rule_widened (hread : ¬IsTooDeep (goal.rule now text)) (extra : Nat) :
    (goal.widened extra).rule now text = goal.rule now text :=
  ((goal.rule_restricts now extra text).resolve_left hread).symm

theorem Leads.not_isTooDeep (hleads : Leads now goal text next place)
    (hread : ¬IsTooDeep (goal.rule now text)) : ¬IsTooDeep (next.rule now place) := by
  rintro ⟨rest, hdeep⟩
  exact hread ⟨rest, hleads.rule_eq_error hdeep⟩

theorem Visits.not_isTooDeep (hvisits : Visits now query goal text)
    (hquery : ¬IsTooDeep (expressions now maxDepth (query.length + 1) query)) :
    ¬IsTooDeep (goal.rule now text) := by
  rintro ⟨rest, hdeep⟩
  exact hquery ⟨rest, hvisits.expressions_eq hdeep⟩

theorem Goal.allowed_pos (hrule : goal.IsRule) (hread : ¬IsTooDeep (goal.rule now text)) :
    0 < goal.allowed := by
  cases goal with
  | expression allowed | value names allowed =>
      cases allowed with
      | zero => exact absurd ⟨text, rfl⟩ hread
      | succ allowed => exact Nat.succ_pos allowed
  | comparison | matching => cases hrule

section Narrow

variable (hread : ¬IsTooDeep (goal.rule now text))

include hread

theorem Opens.of_widened (hopens : Opens (goal.widened extra) text item inner) :
    ∃ narrow : Goal, item = narrow.widened extra ∧ Opens goal text narrow inner := by
  cases goal with
  | expression allowed =>
      cases allowed with
      | zero => exact absurd ⟨text, rfl⟩ hread
      | succ allowed =>
          cases hopens with
          | expressions hmark hstart => exact ⟨.expression allowed, rfl, .expressions hmark hstart⟩
          | comparisons hstart => exact ⟨.comparison, rfl, .comparisons hstart⟩
  | value names allowed =>
      cases allowed with
      | zero => exact absurd ⟨text, rfl⟩ hread
      | succ allowed =>
          cases hopens with
          | values hmark hstart => exact ⟨.value names allowed, rfl, .values hmark hstart⟩
  | comparison | matching => cases hopens

/-- The items of a group are read alike: each stands at a place to which the group leads, so none is
refused as nested too deeply. -/
theorem AfterItem.of_widened (hopens : Opens goal text item inner)
    (hmiddle : AfterItem ((item.widened extra).rule now) inner middle) :
    AfterItem (item.rule now) inner middle := by
  induction hmiddle with
  | first hfirst =>
      have hplace := (Leads.item hopens .first).not_isTooDeep hread
      rw [Goal.rule_widened hplace] at hfirst
      exact .first hfirst
  | next hmiddle hcomma hnext ih =>
      have hplace := (Leads.item hopens (.next ih hcomma)).not_isTooDeep hread
      rw [Goal.rule_widened hplace] at hnext
      exact .next ih hcomma hnext

theorem Opens.leads_of_widened (hopens : Opens (goal.widened extra) text item inner)
    (hplace : IsItemPlace (item.rule now) inner place) :
    ∃ narrow : Goal, item = narrow.widened extra ∧ Leads now goal text narrow place := by
  obtain ⟨narrow, rfl, hnarrow⟩ := hopens.of_widened hread
  refine ⟨narrow, rfl, .item hnarrow ?_⟩
  cases hplace with
  | first => exact .first
  | next hmiddle hcomma => exact .next (hmiddle.of_widened hread hnarrow) hcomma

/-- A goal that is not refused as nested too deeply leads to the same places when more rules may be
open. -/
theorem Leads.of_widened (hleads : Leads now (goal.widened extra) text next place) :
    ∃ narrow : Goal, next = narrow.widened extra ∧ Leads now goal text narrow place := by
  cases goal with
  | expression allowed =>
      cases allowed with
      | zero => exact absurd ⟨text, rfl⟩ hread
      | succ allowed =>
          cases hleads with
          | item hopens hplace => exact Opens.leads_of_widened hread hopens hplace
          | notExpression hstart => exact ⟨.expression allowed, rfl, .notExpression hstart⟩
          | tags hplain hnames => exact ⟨.value _ allowed, rfl, .tags hplain hnames⟩
          | bare hplain hnames => exact ⟨.matching _, rfl, .bare hplain hnames⟩
  | value names allowed =>
      cases allowed with
      | zero => exact absurd ⟨text, rfl⟩ hread
      | succ allowed =>
          cases hleads with
          | item hopens hplace => exact Opens.leads_of_widened hread hopens hplace
          | notValue hstart => exact ⟨.value names allowed, rfl, .notValue hstart⟩
          | plain hplain => exact ⟨.matching names, rfl, .plain hplain⟩
  | comparison | matching =>
      cases hleads with
      | item hopens => cases hopens

end Narrow

section Accepted

variable (hquery : ¬IsTooDeep (expressions now maxDepth (query.length + 1) query))

include hquery

theorem IsTop.of_widened (htop : IsTop now (extra + maxDepth) query text) :
    IsTop now maxDepth query text := by
  induction htop with
  | first => exact .first
  | @next text predicate rest htop hread ih =>
      have hmore : text ≠ [] := by
        rintro rfl
        exact Nat.not_lt_zero _ (expression_advances now _ hread).shorter
      have hdeep := (Visits.top ih hmore).not_isTooDeep hquery
      have hsame : expression now (extra + maxDepth) text = expression now maxDepth text :=
        Goal.rule_widened hdeep extra
      exact .next ih (hsame ▸ hread)

/-- Where a query is not refused as nested too deeply, a wider limit leads to the same places. -/
theorem Reaches.visits_of_wider
    (hreaches : Reaches now (extra + maxDepth) query opened goal text) :
    ∃ narrow : Goal, goal = narrow.widened extra ∧ Visits now query narrow text := by
  -- no goal on the way is refused as nested too deeply, or the query would be
  induction hreaches with
  | top htop hmore => exact ⟨.expression maxDepth, rfl, .top (htop.of_widened hquery) hmore⟩
  | step hreaches hleads ih =>
      obtain ⟨outer, rfl, hvisits⟩ := ih
      obtain ⟨narrow, rfl, hnarrow⟩ := hleads.of_widened (hvisits.not_isTooDeep hquery)
      exact ⟨narrow, rfl, hvisits.step hnarrow⟩

/-- Where a query is not refused as nested too deeply, every rule starts under fewer open ones than
there may be. -/
theorem Reaches.length_lt_maxDepth
    (hreaches : Reaches now (extra + maxDepth) query opened goal text)
    (hrule : goal.IsRule) : opened.length < maxDepth := by
  obtain ⟨narrow, rfl, hvisits⟩ := hreaches.visits_of_wider hquery
  have hpos := Goal.allowed_pos (Goal.isRule_widened.mp hrule) (hvisits.not_isTooDeep hquery)
  have hlimit := hreaches.length_add_allowed.2 hrule
  have hallowed := Goal.allowed_widened (Goal.isRule_widened.mp hrule) extra
  omega

end Accepted

/-! ## Queries -/

theorem expressions_restricts (now : Binary64) (limit extra rounds : Nat) (text : List Char) :
    IsTooDeep (expressions now limit rounds text) ∨
      expressions now limit rounds text = expressions now (extra + limit) rounds text := by
  induction rounds generalizing text with
  | zero => exact Or.inr rfl
  | succ rounds ih =>
      rw [expressions, expressions]
      split
      next => exact Or.inr rfl
      next =>
        rcases expression_restricts_add now limit extra (Text.trimStart text) with
          ⟨place, hrefused⟩ | hsame
        · exact Or.inl ⟨place, by rw [hrefused]⟩
        · rw [← hsame]
          split
          next => exact Or.inr rfl
          next first rest hfirst =>
            rcases ih rest with ⟨place, hrefused⟩ | hsame
            · exact Or.inl ⟨place, by rw [hrefused]⟩
            · exact Or.inr (by rw [hsame])

theorem isTooDeep_iff (text : String) (now : Binary64) :
    IsTooDeep (expressions now maxDepth (text.toList.length + 1) text.toList) ↔
      ∃ offset, parse text now = .error (.malformed offset .nestedTooDeeply) := by
  unfold parse parseWithin
  constructor
  · rintro ⟨rest, hdeep⟩
    rw [hdeep]
    exact ⟨_, rfl⟩
  · rintro ⟨offset, hparse⟩
    split at hparse
    next fault hfault =>
      cases fault with
      | misplaced rest found =>
          cases hparse
          exact ⟨rest, hfault⟩
      | invalidRegex | comparison => cases hparse
    next => cases hparse

theorem parse_eq_parseWithin {text : String}
    (hquery : ¬IsTooDeep (expressions now maxDepth (text.toList.length + 1) text.toList))
    (extra : Nat) :
    parse text now = parseWithin (extra + maxDepth) text now := by
  have hsame := (expressions_restricts now maxDepth extra _ _).resolve_left hquery
  rw [parse, parseWithin, parseWithin, hsame]

/-- A query that is nested too deeply comes, at any wider limit, to a rule under as many open rules as
there may be. -/
theorem exists_reaches_of_isTooDeep
    (hdeep : IsTooDeep (expressions now maxDepth (query.length + 1) query)) (extra : Nat) :
    ∃ opened goal place, Reaches now (extra + maxDepth) query opened goal place ∧
      goal.IsRule ∧ maxDepth ≤ opened.length := by
  obtain ⟨rest, hdeep⟩ := hdeep
  obtain ⟨goal, text, hvisits, hlacks⟩ := expressions_eq_misplaced_iff.mp hdeep
  obtain ⟨opened, hreaches⟩ := hvisits.reaches extra
  have hrefused : goal.IsRule ∧ goal.allowed = 0 := by
    cases hlacks with
    | expressionDepth | valueDepth => exact ⟨trivial, rfl⟩
  have hrule : (goal.widened extra).IsRule := Goal.isRule_widened.mpr hrefused.1
  have hlimit := hreaches.length_add_allowed.2 hrule
  have hallowed := Goal.allowed_widened hrefused.1 extra
  exact ⟨opened, _, text, hreaches, hrule, by omega⟩

/-- A query has a tree of at most 130 nodes on any way down. It is read with at most 128 rules open:
under 128 of them no further one reads anything, and the query is refused as nested too deeply where
that rule starts. However many rules may be open, coming to such a rule is the one thing for which the
query is refused as nested too deeply, and without it the wider limit changes nothing. -/
theorem nesting_bounded (text : String) (now : Binary64) :
    (∀ predicate below, parse text now = .ok predicate →
      Predicate.IsDescent (predicate :: below) → (predicate :: below).length ≤ 130) ∧
    (∀ opened goal place, Reaches now maxDepth text.toList opened goal place →
      (∀ rule ∈ opened, rule.IsRule) ∧ opened.length ≤ 128 ∧
      (∀ next further, Leads now goal place next further → opened.length < 128) ∧
      (goal.IsRule → opened.length = 128 →
        parse text now = .error (.malformed (Text.byteLength text.toList - Text.byteLength place)
          .nestedTooDeeply))) ∧
    ∀ limit, 128 ≤ limit →
      ((∃ offset, parse text now = .error (.malformed offset .nestedTooDeeply)) ↔
        ∃ opened goal place, Reaches now limit text.toList opened goal place ∧ goal.IsRule ∧
          128 ≤ opened.length) ∧
      ((∀ offset, parse text now ≠ .error (.malformed offset .nestedTooDeeply)) →
        parse text now = parseWithin limit text now) := by
  refine ⟨fun predicate below hparse hdescent => ?_, fun opened goal place hreaches => ?_,
    fun limit hlimit => ?_⟩
  · exact hdescent.length_le.trans (parse_height_le hparse)
  · have hallowed : opened.length + goal.allowed ≤ 128 := hreaches.length_add_allowed.1
    refine ⟨hreaches.isRule_of_mem, by omega, fun next further hleads => ?_, ?_⟩
    · have hlt := hleads.allowed_lt
      omega
    · intro hrule hopened
      unfold parse parseWithin
      rw [hreaches.expressions_eq hrule hopened]
      rfl
  · obtain ⟨extra, rfl⟩ := Nat.exists_eq_add_of_le' hlimit
    refine ⟨⟨fun hparse => ?_, ?_⟩, fun hparse => ?_⟩
    · exact exists_reaches_of_isTooDeep ((isTooDeep_iff text now).mpr hparse) extra
    · rintro ⟨opened, goal, place, hreaches, hrule, hopened⟩
      rw [← isTooDeep_iff]
      by_contra hquery
      exact absurd hopened (Nat.not_le.mpr (hreaches.length_lt_maxDepth hquery hrule))
    · refine parse_eq_parseWithin (fun hdeep => ?_) extra
      exact ((isTooDeep_iff text now).mp hdeep).elim hparse

/-- A text behind negations. -/
def behindNegations (count : Nat) (text : List Char) : List Char :=
  List.replicate count '!' ++ text

/-- Each negation opens one rule. -/
theorem Reaches.behindNegations {count allowed : Nat} (hreaches : Reaches now limit query opened
      (.expression (allowed + count)) (behindNegations count text)) :
    ∃ outer, outer.length = opened.length + count ∧
      Reaches now limit query outer (.expression allowed) text := by
  induction count generalizing opened with
  | zero => exact ⟨opened, rfl, hreaches⟩
  | succ count ih =>
      have hstart : Text.trimStart (Query.behindNegations (count + 1) text) =
          '!' :: Query.behindNegations count text := Text.trimStart_of_head (by decide) _
      obtain ⟨outer, houter, hinner⟩ := ih (hreaches.step (.notExpression hstart))
      exact ⟨outer, by rw [houter, List.length_cons]; omega, hinner⟩

end Library

theorem byteLength_behindNegations (count : Nat) (text : List Char) :
    Text.byteLength (behindNegations count text) = count + Text.byteLength text := by
  induction count with
  | zero => rw [behindNegations, List.replicate_zero, List.nil_append, Nat.zero_add]
  | succ count ih =>
      have hmark : '!'.utf8Size = 1 := rfl
      change '!'.utf8Size + Text.byteLength (behindNegations count text) = _
      omega

/-- Below 127 negations stands a group of comparisons, as low as a tree can go; below one more
nothing is read. -/
theorem nesting_bounded_negations :
    (∃ predicate below,
      parse (String.ofList (behindNegations 127 "#(a > 1, a > 1) b".toList)) 0 = .ok predicate ∧
      parseWithin 200 (String.ofList (behindNegations 127 "#(a > 1, a > 1) b".toList)) 0 =
        .ok predicate ∧
      Predicate.IsDescent (predicate :: below) ∧ (predicate :: below).length = 130) ∧
    parse (String.ofList (behindNegations 128 ['b'])) 0 =
      .error (.malformed 128 .nestedTooDeeply) := by
  constructor
  · have hbounded := nesting_bounded
      (String.ofList (behindNegations 127 "#(a > 1, a > 1) b".toList)) 0
    have hheight : 130 ≤ (match
        parse (String.ofList (behindNegations 127 "#(a > 1, a > 1) b".toList)) 0 with
      | .ok predicate => predicate.height
      | .error _ => 0) := by decide +kernel
    split at hheight
    next predicate hparse =>
      obtain ⟨below, hdescent, hlength⟩ := predicate.exists_descent
      have hlimit := (hbounded.2.2 200 (by decide)).2 (by rw [hparse]; exact nofun)
      refine ⟨predicate, below, hparse, hlimit ▸ hparse, hdescent, ?_⟩
      exact le_antisymm (hbounded.1 predicate below hparse hdescent) (hlength ▸ hheight)
    next => exact absurd hheight (by decide)
  · have htop : Reaches 0 maxDepth (behindNegations 128 ['b']) []
        (.expression (0 + 128)) (behindNegations 128 ['b']) := .top .first (by decide)
    obtain ⟨opened, hlength, hreaches⟩ := htop.behindNegations
    have hbounded := nesting_bounded (String.ofList (behindNegations 128 ['b'])) 0
    rw [String.toList_ofList] at hbounded
    have hrefused := (hbounded.2.1 opened _ _ hreaches).2.2.2 trivial (by simpa using hlength)
    rwa [byteLength_behindNegations, Nat.add_sub_cancel] at hrefused

end Songbook.Query
