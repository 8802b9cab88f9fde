import Mathlib.Data.List.Chain
import Songbook.Proofs.Query.FaultPlaces

/-!
# Rounds of reading

The rules of queries read from positions of one text, and each that succeeds stops at a later one. So
the two loops of reading, over the expressions of a query and over the items of a group, have fewer
characters before them from round to round and come to an end, with the answer that a bound on the
rounds does not change. Where the search for tag names finds none, what it passed is read once more.
-/

namespace Songbook

namespace Text

variable {text : String}

/-- The rest of a text from a position on. -/
def remaining (cursor : text.Pos) : List Char :=
  (text.sliceFrom cursor).copy.toList

theorem remaining_of_splits {cursor : text.Pos} {before after : String}
    (hsplits : cursor.Splits before after) : remaining cursor = after.toList := by
  rw [remaining, hsplits.copy_sliceFrom_eq]

theorem remaining_startPos (text : String) : remaining text.startPos = text.toList :=
  remaining_of_splits text.splits_startPos

end Text

namespace Query

open Text (remaining)

/-- What is left of a text at a position is left at a later position. -/
theorem IsRest.exists_pos {text : String} {cursor : text.Pos} {rest : List Char}
    (hrest : IsRest rest (remaining cursor)) :
    ∃ stop : text.Pos, cursor < stop ∧ remaining stop = rest := by
  obtain ⟨read, hread⟩ := hrest.suffix
  have hafter : (text.sliceFrom cursor).copy = String.ofList read ++ String.ofList rest := by
    rw [← String.ofList_append, hread, remaining, String.ofList_toList]
  have htext : text = (text.sliceTo cursor).copy ++ String.ofList read ++ String.ofList rest := by
    rw [String.append_assoc, ← hafter]
    exact cursor.splits.eq_append
  have hstop := String.Pos.splits_ofEqAppend htext
  refine ⟨String.Pos.ofEqAppend htext, ?_, ?_⟩
  · refine (cursor.splits.lt_iff_exists_eq_append hstop).mpr ⟨_, ?_, rfl, hafter⟩
    intro hempty
    have hshorter := hrest.shorter
    rw [← hread, String.ofList_eq_empty_iff.mp hempty] at hshorter
    exact Nat.lt_irrefl _ hshorter
  · rw [Text.remaining_of_splits hstop, String.toList_ofList]

/-- Rests of a text of which each is left of the one before it. -/
def AreRests (places : List (List Char)) : Prop :=
  places.IsChain fun before after => IsRest after before

/-- Such rests are left at later and later positions. -/
theorem AreRests.exists_stops {text : String} {cursor : text.Pos} {places : List (List Char)}
    (hplaces : AreRests (remaining cursor :: places)) :
    ∃ stops : List text.Pos, (cursor :: stops).IsChain (· < ·) ∧ stops.map remaining = places := by
  induction places generalizing cursor with
  | nil => exact ⟨[], List.isChain_singleton _, rfl⟩
  | cons place places ih =>
      obtain ⟨hplace, hmore⟩ := List.isChain_cons_cons.mp hplaces
      obtain ⟨stop, hstop, rfl⟩ := hplace.exists_pos
      obtain ⟨stops, hstops, rfl⟩ := ih hmore
      exact ⟨stop :: stops, List.isChain_cons_cons.mpr ⟨hstop, hstops⟩, rfl⟩

theorem AreRests.length_le {text : List Char} {places : List (List Char)}
    (hplaces : AreRests (text :: places)) : places.length ≤ text.length := by
  induction places generalizing text with
  | nil => exact Nat.zero_le _
  | cons place places ih =>
      obtain ⟨hplace, hmore⟩ := List.isChain_cons_cons.mp hplaces
      have hlength := ih hmore
      have hshorter := hplace.shorter
      rw [List.length_cons]
      omega

/-! ## Loops -/

/-- What one round of a loop comes to: an item, with the rest of the text for the next round, or the
end of the loop, with the rest of the text behind it, or a fault. -/
inductive Round where
  | item (predicate : Predicate) (rest : List Char)
  | ends (rest : List Char)
  | fails (fault : Fault)

/-- A round of reading the items of a group behind the first one. `opened` is the text from the opening
parenthesis on. -/
def itemsRound (item : Rule Predicate) (opened text : List Char) : Round :=
  match Text.trimStart text with
  | ',' :: rest =>
    match item rest with
    | .error fault => .fails fault
    | .ok (predicate, rest) => .item predicate rest
  | ')' :: rest => .ends rest
  | [] => .fails (.misplaced opened .missingParenthesis)
  | rest => .fails (.misplaced rest .expectedSeparator)

/-- A round of reading the expressions of a query, if at most `limit` rules may be open at once. -/
def expressionsRound [RegexLibrary] (now : Binary64) (limit : Nat) (text : List Char) : Round :=
  match Text.trimStart text with
  | [] => .ends []
  | start =>
    match expression now limit start with
    | .error fault => .fails fault
    | .ok (predicate, rest) => .item predicate rest

/-- The rounds of a loop from a text on, as the places that they leave to the next ones, with the
answer in which the last round ends. -/
inductive Runs (round : List Char → Round) :
    List Char → List (List Char) → Except Fault (List Predicate × List Char) → Prop
  | ends {text rest} (hround : round text = .ends rest) : Runs round text [] (.ok ([], rest))
  | fails {text fault} (hround : round text = .fails fault) : Runs round text [] (.error fault)
  | item {text predicate rest places answer} (hround : round text = .item predicate rest)
      (hruns : Runs round rest places answer) :
      Runs round text (rest :: places)
        (answer.map fun (items, last) => (predicate :: items, last))

/-- A loop of which each round leaves less of the text to the next one ends. -/
theorem exists_runs {round : List Char → Round}
    (hround : ∀ {text predicate rest}, round text = .item predicate rest → IsRest rest text)
    (text : List Char) :
    ∃ places answer, Runs round text places answer ∧ AreRests (text :: places) := by
  induction hlength : text.length using Nat.strong_induction_on generalizing text with
  | _ length ih =>
      cases hfirst : round text with
      | item predicate rest =>
          have hrest := hround hfirst
          obtain ⟨places, answer, hruns, hplaces⟩ := ih rest.length (hlength ▸ hrest.shorter) rest rfl
          exact ⟨_, _, .item hfirst hruns, List.isChain_cons_cons.mpr ⟨hrest, hplaces⟩⟩
      | ends rest => exact ⟨[], _, .ends hfirst, List.isChain_singleton _⟩
      | fails fault => exact ⟨[], _, .fails hfirst, List.isChain_singleton _⟩

theorem isRest_of_itemsRound {item : Rule Predicate} (hitem : Advances item)
    {opened text rest : List Char} {predicate : Predicate}
    (hround : itemsRound item opened text = .item predicate rest) : IsRest rest text := by
  unfold itemsRound at hround
  split at hround
  next after hcomma =>
    split at hround
    next => cases hround
    next hread =>
      cases hround
      exact IsRest.of_trimStart (hcomma ▸ IsRest.cons (hitem hread).suffix ',')
  next => cases hround
  next => cases hround
  next => cases hround

theorem isRest_of_expressionsRound [RegexLibrary] {now : Binary64} {limit : Nat}
    {text rest : List Char} {predicate : Predicate}
    (hround : expressionsRound now limit text = .item predicate rest) :
    IsRest rest text := by
  unfold expressionsRound at hround
  split at hround
  next => cases hround
  next =>
    split at hround
    next => cases hround
    next hread =>
      cases hround
      exact IsRest.of_trimStart (expression_advances now limit hread)

theorem moreItems_succ (item : Rule Predicate) (opened : List Char) (rounds : Nat)
    (text : List Char) :
    moreItems item opened (rounds + 1) text =
      match itemsRound item opened text with
      | .item predicate rest =>
        (moreItems item opened rounds rest).map fun (items, last) => (predicate :: items, last)
      | .ends rest => .ok ([], rest)
      | .fails fault => .error fault := by
  cases hstart : Text.trimStart text with
  | nil => simp only [moreItems, itemsRound, hstart]
  | cons c after =>
      by_cases hcomma : c = ','
      · subst hcomma
        cases hread : item after with
        | error fault => simp only [moreItems, itemsRound, hstart, hread]
        | ok result =>
            simp only [moreItems, itemsRound, hstart, hread]
            cases moreItems item opened rounds result.2 <;> rfl
      · by_cases hclose : c = ')'
        · subst hclose
          simp only [moreItems, itemsRound, hstart]
        · simp [moreItems, itemsRound, hstart, hcomma, hclose]

theorem expressions_succ [RegexLibrary] (now : Binary64) (limit rounds : Nat) (text : List Char) :
    expressions now limit (rounds + 1) text =
      match expressionsRound now limit text with
      | .item predicate rest => (expressions now limit rounds rest).map (predicate :: ·)
      | .ends _ => .ok []
      | .fails fault => .error fault := by
  cases hstart : Text.trimStart text with
  | nil => simp only [expressions, expressionsRound, hstart]
  | cons c after =>
      cases hread : expression now limit (c :: after) with
      | error fault => simp only [expressions, expressionsRound, hstart, hread]
      | ok result =>
          simp only [expressions, expressionsRound, hstart, hread]
          cases expressions now limit rounds result.2 <;> rfl

/-- A bound on the rounds that is above their number is none. -/
theorem Runs.moreItems_eq {item : Rule Predicate} {opened text : List Char}
    {places : List (List Char)} {answer : Except Fault (List Predicate × List Char)}
    (hruns : Runs (itemsRound item opened) text places answer) {rounds : Nat}
    (hrounds : places.length < rounds) : moreItems item opened rounds text = answer := by
  induction hruns generalizing rounds with
  | ends hround | fails hround =>
      cases rounds with
      | zero => cases hrounds
      | succ rounds => rw [moreItems_succ, hround]
  | item hround hruns ih =>
      cases rounds with
      | zero => cases hrounds
      | succ rounds =>
          have hmore := ih (Nat.lt_of_succ_lt_succ hrounds)
          simp only [moreItems_succ, hround, hmore]

theorem Runs.expressions_eq [RegexLibrary] {now : Binary64} {limit : Nat} {text : List Char}
    {places : List (List Char)} {answer : Except Fault (List Predicate × List Char)}
    (hruns : Runs (expressionsRound now limit) text places answer) {rounds : Nat}
    (hrounds : places.length < rounds) :
    expressions now limit rounds text = answer.map Prod.fst := by
  induction hruns generalizing rounds with
  | ends hround | fails hround =>
      cases rounds with
      | zero => cases hrounds
      | succ rounds =>
          rw [expressions_succ, hround]
          rfl
  | @item _ _ _ _ answer hround hruns ih =>
      cases rounds with
      | zero => cases hrounds
      | succ rounds =>
          have hmore := ih (Nat.lt_of_succ_lt_succ hrounds)
          simp only [expressions_succ, hround, hmore]
          cases answer <;> rfl

/-! ## Positions -/

/-- A rest of a text is left at a position behind another one. -/
def IsLeftBehind {text : String} (cursor : text.Pos) (rest : List Char) : Prop :=
  ∃ stop : text.Pos, cursor < stop ∧ remaining stop = rest

/-- A loop that starts at a position goes on at later and later positions until it ends in an
answer. -/
def EndsFrom (round : List Char → Round) {text : String} (cursor : text.Pos)
    (answer : Except Fault (List Predicate × List Char)) : Prop :=
  ∃ stops : List text.Pos, (cursor :: stops).IsChain (· < ·) ∧
    Runs round (remaining cursor) (stops.map remaining) answer

/-- An expression without a mark and without tag names is read as a matcher from where the search for
the names started. -/
theorem expression_of_bare [RegexLibrary] {now : Binary64} {allowed : Nat} {text : List Char}
    (hplain : isMarked (Text.trimStart text) = false) (hnames : tagNames? text = none) :
    expression now (allowed + 1) text = matching defaultTags text := by
  have hmatcher : matcher (Text.trimStart text) = matcher text := by
    unfold matcher
    rw [trimStart_trimStart]
  rw [expression_of_plain hplain, tagNames?_congr (trimStart_trimStart text), hnames]
  simp only [matching, hmatcher]

theorem exists_endsFrom {round : List Char → Round}
    (hround : ∀ {text predicate rest}, round text = .item predicate rest → IsRest rest text)
    {text : String} (cursor : text.Pos) {rounds : Nat}
    (hrounds : (remaining cursor).length < rounds) :
    ∃ places answer, places.length < rounds ∧ Runs round (remaining cursor) places answer ∧
      EndsFrom round cursor answer := by
  obtain ⟨places, answer, hruns, hplaces⟩ := exists_runs hround (remaining cursor)
  obtain ⟨stops, hstops, rfl⟩ := hplaces.exists_stops
  exact ⟨_, answer, hplaces.length_le.trans_lt hrounds, hruns, stops, hstops, hruns⟩

/-- From any position of a text, a rule of queries that succeeds stops at a later position of it, and
so does the search for tag names. Where that search finds none, the expression is read as a matcher
from the position at which the search started. The loops over the expressions of a query and over the
items of a group go from position to later position and end, at any position and with any bound above
the number of characters behind it. -/
theorem rules_advance [RegexLibrary] (text : String) (cursor : text.Pos) (now : Binary64) :
    (∀ goal predicate rest, Goal.rule now goal (remaining cursor) = .ok (predicate, rest) →
      IsLeftBehind cursor rest) ∧
    (∀ regex rest, matcher (remaining cursor) = .ok (regex, rest) → IsLeftBehind cursor rest) ∧
    (∀ names rest, tagNames? (remaining cursor) = some (names, rest) →
      IsLeftBehind cursor rest) ∧
    (tagNames? (remaining cursor) = none →
      isMarked (Text.trimStart (remaining cursor)) = false →
      ∀ allowed, expression now (allowed + 1) (remaining cursor) =
        matching defaultTags (remaining cursor)) ∧
    ∀ rounds, (remaining cursor).length < rounds →
      (∀ limit, ∃ answer, EndsFrom (expressionsRound now limit) cursor answer ∧
        expressions now limit rounds (remaining cursor) = answer.map Prod.fst) ∧
      ∀ goal opened, EndsFrom (itemsRound (Goal.rule now goal) opened) cursor
        (moreItems (Goal.rule now goal) opened rounds (remaining cursor)) := by
  refine ⟨fun goal predicate rest hread => (goal.advances now hread).exists_pos,
    fun regex rest hread => (matcher_isRest hread).exists_pos,
    fun names rest hread => (tagNames?_isRest hread).exists_pos,
    fun hnames hplain allowed => expression_of_bare hplain hnames,
    fun rounds hrounds => ⟨fun limit => ?_, fun goal opened => ?_⟩⟩
  · obtain ⟨places, answer, hplaces, hruns, hends⟩ :=
      exists_endsFrom isRest_of_expressionsRound cursor hrounds
    exact ⟨answer, hends, hruns.expressions_eq hplaces⟩
  · have hround : ∀ {text predicate rest},
        itemsRound (goal.rule now) opened text = .item predicate rest → IsRest rest text :=
      isRest_of_itemsRound (goal.advances now)
    obtain ⟨places, answer, hplaces, hruns, hends⟩ := exists_endsFrom hround cursor hrounds
    rw [hruns.moreItems_eq hplaces]
    exact hends

/-- The search for tag names behind the opening parenthesis passes a name and a comma and stops at the
negation, so the name is read once more as a word. Behind the negation stands a tag list. -/
theorem rules_advance_umlaut :
    ∃ cursor stop inner : ("|(a,\u00a0!ü=x)" : String).Pos,
      remaining cursor = "a,\u00a0!ü=x)".toList ∧ remaining stop = ",\u00a0!ü=x)".toList ∧
      remaining inner = "ü=x)".toList ∧ cursor < stop ∧
      expression 0 2 (remaining cursor) = matching defaultTags (remaining cursor) ∧
      tagNames? (remaining inner) = some (["ü"], "x)".toList) ∧
      IsLeftBehind inner "x)".toList ∧
      EndsFrom (itemsRound (expression 0 2) []) stop
        (moreItems (expression 0 2) [] 8 ",\u00a0!ü=x)".toList) := by
  have hplace : ∀ rest, IsRest rest "|(a,\u00a0!ü=x)".toList →
      IsLeftBehind ("|(a,\u00a0!ü=x)" : String).startPos rest := by
    intro rest hrest
    rw [← Text.remaining_startPos] at hrest
    exact hrest.exists_pos
  obtain ⟨cursor, _, hcursor⟩ := hplace "a,\u00a0!ü=x)".toList ⟨⟨"|(".toList, by decide⟩, by decide⟩
  obtain ⟨inner, _, hinner⟩ := hplace "ü=x)".toList ⟨⟨"|(a,\u00a0!".toList, by decide⟩, by decide⟩
  obtain ⟨hrules, _, _, hbare, _⟩ := rules_advance "|(a,\u00a0!ü=x)" cursor 0
  obtain ⟨_, _, hsearch, _, _⟩ := rules_advance "|(a,\u00a0!ü=x)" inner 0
  rw [hcursor] at hrules hbare
  rw [hinner] at hsearch
  have hsearched : tagNames? "ü=x)".toList = some (["ü"], "x)".toList) := by decide +kernel
  have hexpression := hbare (by decide +kernel) rfl 1
  have hread : (match matcher "a,\u00a0!ü=x)".toList with
      | .ok (_, rest) => decide (rest = ",\u00a0!ü=x)".toList)
      | .error _ => false) = true := by decide +kernel
  split at hread
  next regex rest hmatcher =>
    rw [of_decide_eq_true hread] at hmatcher
    obtain ⟨stop, hstop, hrest⟩ := hrules (.expression 2) _ _
      (hexpression.trans (matching_eq_ok_iff.mpr ⟨regex, hmatcher, rfl⟩))
    obtain ⟨_, _, _, _, hloops⟩ := rules_advance "|(a,\u00a0!ü=x)" stop 0
    rw [hrest] at hloops
    refine ⟨cursor, stop, inner, hcursor, hrest, hinner, hstop, ?_, ?_, hsearch _ _ hsearched, ?_⟩
    · rw [hcursor]
      exact hexpression
    · rw [hinner]
      exact hsearched
    · exact (hloops 8 (by decide)).2 (.expression 2) []
  next => cases hread

end Query

end Songbook
