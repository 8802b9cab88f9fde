import Songbook.Proofs.Regex
import Songbook.Proofs.Unicode.CaseMapping
import Songbook.RegexEngine.Library

/-!
# The engine is a lawful library

An escaped text is read as one literal for each of its characters, and the marks for the start and
the end as the assertions that they are, so pieces make up a sequence without groups. From a place of
a text the sequence goes on wherever its pieces match one after the other.
-/

namespace Songbook.RegexEngine

open Expression
open Regex (Piece MatchesAt caseKey)

/-! ## Reading -/

section Reading

variable {c : Char}

theorem skip_of_not_verbose {flags : Flags} (hverbose : flags.verbose = false) (text : List Char) :
    flags.skip text = text := by
  simp [Flags.skip, hverbose]

theorem step?_of_not_meta (state : State) (hmeta : isMeta c = false) (rest : List Char) :
    step? state c rest = some (state.push (state.flags.literal c), rest) := by
  unfold step?
  dsimp only
  split
  all_goals first
    | exact absurd hmeta (by decide)
    | rfl

/-- A backslash makes a character with a meaning literal. -/
theorem step?_of_meta (state : State) (hmeta : isMeta c = true) (rest : List Char) :
    step? state '\\' (c :: rest) = some (state.push (state.flags.literal c), rest) := by
  have hmem := List.contains_iff_mem.mp hmeta
  simp only [List.mem_cons, List.not_mem_nil, or_false] at hmem
  rcases hmem with rfl | rfl | rfl | rfl | rfl | rfl | rfl | rfl | rfl | rfl | rfl | rfl | rfl |
    rfl | rfl | rfl | rfl | rfl <;> rfl

/-- A state in which several parts more have been read. -/
def State.pushAll (state : State) (parts : List Part) : State :=
  { state with items := (parts.map some).reverse ++ state.items }

theorem State.pushAll_cons (state : State) (part : Part) (parts : List Part) :
    state.pushAll (part :: parts) = (state.push part).pushAll parts := by
  simp [pushAll, push]

theorem State.pushAll_append (state : State) (parts more : List Part) :
    state.pushAll (parts ++ more) = (state.pushAll parts).pushAll more := by
  simp [pushAll]

/-- Each round reads one character of an escaped text, with its backslash if it has one. -/
theorem loop?_escapeText (state : State) (hverbose : state.flags.verbose = false)
    (text rest : List Char) (rounds : Nat) :
    loop? (text.length + rounds) state (escapeText text ++ rest) =
      loop? rounds (state.pushAll (text.map state.flags.literal)) rest := by
  induction text generalizing state with
  | nil => simp [escapeText, State.pushAll]
  | cons c text ih =>
      have hround : loop? (text.length + rounds + 1) state (escapeText (c :: text) ++ rest) =
          loop? (text.length + rounds) (state.push (state.flags.literal c))
            (escapeText text ++ rest) := by
        rw [loop?, skip_of_not_verbose hverbose, escapeText, List.flatMap_cons]
        cases hmeta : isMeta c with
        | true => exact congrArg (Option.bind · _) (step?_of_meta state hmeta _)
        | false => exact congrArg (Option.bind · _) (step?_of_not_meta state hmeta _)
      rw [List.length_cons, Nat.add_right_comm, hround, List.map_cons, State.pushAll_cons]
      exact ih _ hverbose

theorem length_le_escapeText (text : List Char) : text.length ≤ (escapeText text).length := by
  induction text with
  | nil => exact Nat.le_refl _
  | cons c text ih =>
      rw [escapeText, List.flatMap_cons, List.length_append, ← escapeText, List.length_cons]
      split <;> simp <;> omega

/-- Parts that are no groups make a sequence of little depth. -/
theorem value_pushAll (flags : Flags) {parts : List Part} (hflat : ∀ part ∈ parts, part.depth = 0) :
    (State.pushAll { flags } parts).value.expression = sequenceOf (parts.map (·.expression)) ∧
      (State.pushAll { flags } parts).value.depth ≤ 1 := by
  have hparts : ((parts.map some).reverse.filterMap id).reverse = parts := by
    rw [List.filterMap_reverse, List.reverse_reverse, List.filterMap_map]
    exact List.filterMap_some
  have hdepth : (parts.map (·.depth)).foldl max 0 = 0 := by
    clear hparts
    induction parts with
    | nil => rfl
    | cons part parts ih =>
        rw [List.map_cons, List.foldl_cons, hflat part List.mem_cons_self]
        exact ih fun other hother => hflat other (List.mem_cons_of_mem _ hother)
  simp only [State.value, State.pushAll, branchOf, List.append_nil, hparts, hdepth,
    List.isEmpty_nil, if_true]
  refine ⟨trivial, ?_⟩
  split <;> decide

/-- The parts that a piece is read as. -/
def partsOf (ignoreCase : Bool) : Piece → List Part
  | .start => [{ expression := assertion .textStart }]
  | .stop => [{ expression := assertion .textEnd }]
  | .text characters => characters.map (Flags.literal { ignoreCase })

/-- Each round reads one part of a piece. -/
theorem loop?_source {state : State} {ignoreCase : Bool} (hflags : state.flags = { ignoreCase })
    (piece : Piece) (rest : List Char) (rounds : Nat) :
    loop? ((partsOf ignoreCase piece).length + rounds) state (piece.source ++ rest) =
      loop? rounds (state.pushAll (partsOf ignoreCase piece)) rest := by
  have hverbose : state.flags.verbose = false := by rw [hflags]
  have hmark : ∀ mark part, step? state mark rest = some (state.push part, rest) →
      loop? (1 + rounds) state (mark :: rest) = loop? rounds (state.pushAll [part]) rest := by
    intro mark part hstep
    rw [Nat.add_comm, loop?, skip_of_not_verbose hverbose]
    exact congrArg (Option.bind · _) hstep
  cases piece with
  | start =>
      refine hmark '^' _ ?_
      simp only [step?, hflags]
      rfl
  | stop =>
      refine hmark '$' _ ?_
      simp only [step?, hflags]
      rfl
  | text characters =>
      rw [partsOf, List.length_map, ← hflags]
      exact loop?_escapeText state hverbose characters rest rounds

theorem loop?_sources {state : State} {ignoreCase : Bool} (hflags : state.flags = { ignoreCase })
    (pieces : List Piece) (rest : List Char) (rounds : Nat) :
    loop? ((pieces.flatMap (partsOf ignoreCase)).length + rounds) state
        (pieces.flatMap Piece.source ++ rest) =
      loop? rounds (state.pushAll (pieces.flatMap (partsOf ignoreCase))) rest := by
  induction pieces generalizing state with
  | nil => simp [State.pushAll]
  | cons piece pieces ih =>
      rw [List.flatMap_cons, List.flatMap_cons, List.length_append, Nat.add_assoc,
        List.append_assoc, loop?_source hflags, State.pushAll_append]
      exact ih hflags

theorem length_partsOf_le (ignoreCase : Bool) (piece : Piece) :
    (partsOf ignoreCase piece).length ≤ piece.source.length := by
  cases piece with
  | start | stop => exact Nat.le_refl _
  | text characters =>
      rw [partsOf, List.length_map]
      exact length_le_escapeText characters

theorem length_flatMap_partsOf_le (ignoreCase : Bool) (pieces : List Piece) :
    (pieces.flatMap (partsOf ignoreCase)).length ≤ (pieces.flatMap Piece.source).length := by
  induction pieces with
  | nil => exact Nat.le_refl _
  | cons piece pieces ih =>
      rw [List.flatMap_cons, List.flatMap_cons, List.length_append, List.length_append]
      exact Nat.add_le_add (length_partsOf_le ignoreCase piece) ih

theorem depth_of_mem_partsOf {ignoreCase : Bool} {piece : Piece} {part : Part}
    (hmem : part ∈ partsOf ignoreCase piece) : part.depth = 0 := by
  cases piece with
  | start | stop =>
      rw [partsOf, List.mem_singleton] at hmem
      rw [hmem]
  | text characters =>
      obtain ⟨c, _, rfl⟩ := List.mem_map.mp hmem
      rfl

/-- The expression that pieces are read as. -/
def expressionOf (ignoreCase : Bool) (pieces : List Piece) : Expression :=
  sequenceOf ((pieces.flatMap (partsOf ignoreCase)).map (·.expression))

theorem read?_ofPieces (ignoreCase : Bool) (pieces : List Piece) :
    read? (Regex.ofPieces ignoreCase pieces) = some (expressionOf ignoreCase pieces) := by
  have hflat : ∀ part ∈ pieces.flatMap (partsOf ignoreCase), part.depth = 0 := by
    intro part hpart
    obtain ⟨piece, _, hmem⟩ := List.mem_flatMap.mp hpart
    exact depth_of_mem_partsOf hmem
  obtain ⟨extra, hextra⟩ :=
    Nat.exists_eq_add_of_le (length_flatMap_partsOf_le ignoreCase pieces)
  have hloop : loop? ((pieces.flatMap Piece.source).length + 1) { flags := { ignoreCase } }
      (pieces.flatMap Piece.source) =
        some (State.pushAll { flags := { ignoreCase } } (pieces.flatMap (partsOf ignoreCase))) := by
    have hread := @loop?_sources { flags := { ignoreCase } } ignoreCase rfl pieces [] (extra + 1)
    rw [List.append_nil, ← Nat.add_assoc, ← hextra] at hread
    rw [hread, loop?]
    rfl
  obtain ⟨hexpression, hdepth⟩ := value_pushAll { ignoreCase } hflat
  have hshallow : (State.pushAll { flags := { ignoreCase } }
      (pieces.flatMap (partsOf ignoreCase))).value.depth ≤ 250 := Nat.le_trans hdepth (by decide)
  rw [read?, Regex.ofPieces, String.toList_ofList, parseWith?, hloop, Option.bind_some]
  dsimp only
  rw [hexpression, decide_eq_true hshallow]
  rfl

end Reading

/-! ## Matching -/

theorem ends_sequenceOf (text : Array Char) (expressions : List Expression) (starts : List Nat) :
    ends text (sequenceOf expressions) starts =
      expressions.foldl (fun places expression => ends text expression places) starts := by
  induction expressions generalizing starts with
  | nil => rfl
  | cons expression rest ih =>
      cases rest with
      | nil => rfl
      | cons next rest => exact ih (ends text expression starts)

section Matching

variable {ignoreCase : Bool} {text word : List Char}

theorem mem_variants_iff {c x : Char} :
    x ∈ Flags.variants { ignoreCase } c ↔ caseKey ignoreCase x = caseKey ignoreCase c := by
  cases ignoreCase with
  | false => exact List.mem_singleton
  | true => exact Unicode.mem_caseVariants_iff

theorem mem_ends_literal {c : Char} {starts : List Nat} {place : Nat} :
    place ∈ ends text.toArray (Flags.literal { ignoreCase } c).expression starts ↔
      ∃ start ∈ starts, place = start + 1 ∧ ∃ x, text[start]? = some x ∧
        caseKey ignoreCase x = caseKey ignoreCase c := by
  have hread : ∀ start : Nat,
      (text[start]?.map (Flags.variants { ignoreCase } c).contains).getD false = true ↔
        ∃ x, text[start]? = some x ∧ caseKey ignoreCase x = caseKey ignoreCase c := by
    intro start
    cases text[start]? with
    | none => simp
    | some x => simp [mem_variants_iff]
  rw [Flags.literal, ends, placesAfter, List.mem_map]
  simp only [List.mem_filter, List.getElem?_toArray, hread]
  constructor
  · rintro ⟨start, ⟨hstart, hx⟩, rfl⟩
    exact ⟨start, hstart, rfl, hx⟩
  · rintro ⟨start, hstart, rfl, hx⟩
    exact ⟨start, ⟨hstart, hx⟩, rfl⟩

/-- The part of a text that its character at a place starts. -/
theorem drop_eq_cons_iff {start : Nat} {x : Char} {rest : List Char} :
    text.drop start = x :: rest ↔ text[start]? = some x ∧ text.drop (start + 1) = rest := by
  rw [← List.head?_drop, ← List.tail_drop]
  cases text.drop start with
  | nil => simp
  | cons first more => simp

/-- The places that the expressions of some parts lead to. -/
def endsOf (text : List Char) (parts : List Part) (starts : List Nat) : List Nat :=
  (parts.map (·.expression)).foldl
    (fun places expression => ends text.toArray expression places) starts

theorem endsOf_append (text : List Char) (parts more : List Part) (starts : List Nat) :
    endsOf text (parts ++ more) starts = endsOf text more (endsOf text parts starts) := by
  rw [endsOf, List.map_append, List.foldl_append]
  rfl

/-- Literals one after the other read a part of the text that counts as theirs. -/
theorem mem_endsOf_literals {starts : List Nat} {place : Nat} :
    place ∈ endsOf text (word.map (Flags.literal { ignoreCase })) starts ↔
      ∃ start ∈ starts, place = start + word.length ∧ ∃ part, part <+: text.drop start ∧
        part.map (caseKey ignoreCase) = word.map (caseKey ignoreCase) := by
  induction word generalizing starts with
  | nil => simp [endsOf]
  | cons c word ih =>
      rw [List.map_cons, ← List.singleton_append, endsOf_append, ih]
      simp only [endsOf, List.map_cons, List.map_nil, List.foldl_cons, List.foldl_nil,
        mem_ends_literal]
      constructor
      · rintro ⟨_, ⟨start, hstart, rfl, x, hx, hkey⟩, rfl, part, ⟨rest, hpart⟩, hmap⟩
        refine ⟨start, hstart, by rw [List.length_cons]; omega, x :: part, ⟨rest, ?_⟩, ?_⟩
        · exact (drop_eq_cons_iff.mpr ⟨hx, hpart.symm⟩).symm
        · rw [List.map_cons, hkey, hmap]
      · rintro ⟨start, hstart, rfl, part, ⟨rest, hpart⟩, hmap⟩
        cases part with
        | nil => cases hmap
        | cons x part =>
            obtain ⟨hkey, hmap⟩ := List.cons.inj hmap
            obtain ⟨hx, hrest⟩ := drop_eq_cons_iff.mp hpart.symm
            exact ⟨start + 1, ⟨start, hstart, rfl, x, hx, hkey⟩, by rw [List.length_cons]; omega,
              part, ⟨rest, hrest.symm⟩, hmap⟩

section Places

variable {start : Nat} {part after : List Char} (hpart : part ++ after = text.drop start)
  (hkeys : part.map (caseKey ignoreCase) = word.map (caseKey ignoreCase))

include hpart hkeys

theorem drop_add_length : text.drop (start + word.length) = after := by
  have hlength : part.length = word.length := by simpa using congrArg List.length hkeys
  rw [← List.drop_drop, ← hpart, ← hlength, List.drop_left]

theorem take_add_length : text.take (start + word.length) = text.take start ++ part := by
  have hlength : part.length = word.length := by simpa using congrArg List.length hkeys
  rw [List.take_add, ← hpart, ← hlength, List.take_left]

end Places

theorem mem_endsOf_start {starts : List Nat} (hstarts : ∀ start ∈ starts, start ≤ text.length)
    {place : Nat} : place ∈ endsOf text (partsOf ignoreCase .start) starts ↔
      place ∈ starts ∧ text.take place = [] := by
  have hbefore : (before? text.toArray place).isNone = true ↔ place = 0 ∨ text.length < place := by
    unfold before?
    split
    next hzero => simp [hzero]
    next hpos =>
      rw [List.getElem?_toArray, Option.isNone_iff_eq_none, List.getElem?_eq_none_iff]
      omega
  simp only [endsOf, partsOf, List.map_cons, List.map_nil, List.foldl_cons, List.foldl_nil, ends,
    Assertion.holds, List.mem_filter, hbefore, List.take_eq_nil_iff]
  refine and_congr_right fun hplace => ?_
  have hlength := hstarts place hplace
  rw [← List.length_eq_zero_iff]
  omega

theorem mem_endsOf_stop {starts : List Nat} {place : Nat} :
    place ∈ endsOf text (partsOf ignoreCase .stop) starts ↔
      place ∈ starts ∧ text.drop place = [] := by
  simp [endsOf, partsOf, ends, Assertion.holds]

/-- From places of a text the parts of some pieces lead on wherever the pieces match. -/
theorem exists_mem_endsOf_iff (pieces : List Piece) {starts : List Nat}
    (hstarts : ∀ start ∈ starts, start ≤ text.length) :
    (∃ place, place ∈ endsOf text (pieces.flatMap (partsOf ignoreCase)) starts) ↔
      ∃ start ∈ starts, MatchesAt ignoreCase pieces (text.take start) (text.drop start) := by
  induction pieces generalizing starts with
  | nil => simp [endsOf, MatchesAt]
  | cons piece pieces ih =>
      rw [List.flatMap_cons, endsOf_append]
      cases piece with
      | start =>
          rw [ih fun place hplace => hstarts place ((mem_endsOf_start hstarts).mp hplace).1]
          simp only [mem_endsOf_start hstarts, MatchesAt, and_assoc]
      | stop =>
          rw [ih fun place hplace => hstarts place (mem_endsOf_stop.mp hplace).1]
          simp only [mem_endsOf_stop, MatchesAt, and_assoc]
      | text characters =>
          have hmore : ∀ place ∈ endsOf text (partsOf ignoreCase (.text characters)) starts,
              place ≤ text.length := by
            intro place hplace
            obtain ⟨start, hstart, rfl, part, hpart, hkeys⟩ := mem_endsOf_literals.mp hplace
            have hlength := hpart.length_le
            have hsame := congrArg List.length hkeys
            have hfirst := hstarts start hstart
            rw [List.length_drop] at hlength
            rw [List.length_map, List.length_map] at hsame
            omega
          rw [ih hmore]
          simp only [partsOf, mem_endsOf_literals, MatchesAt]
          constructor
          · rintro ⟨_, ⟨start, hstart, rfl, part, ⟨after, hpart⟩, hkeys⟩, hmatches⟩
            refine ⟨start, hstart, part, after, hpart.symm, hkeys, ?_⟩
            rwa [take_add_length hpart hkeys, drop_add_length hpart hkeys] at hmatches
          · rintro ⟨start, hstart, part, after, hpart, hkeys, hmatches⟩
            refine ⟨_, ⟨start, hstart, rfl, part, ⟨after, hpart.symm⟩, hkeys⟩, ?_⟩
            rwa [take_add_length hpart.symm hkeys, drop_add_length hpart.symm hkeys]

end Matching

/-- The engine takes pieces of expressions for what they stand for. -/
instance lawful : LawfulRegexLibrary where
  finds_ofPieces ignoreCase pieces text _ := by
    have hplaces : ∀ start ∈ List.range (text.length + 1), start ≤ text.length :=
      fun start hstart => Nat.le_of_lt_succ (List.mem_range.mp hstart)
    have hfinds : RegexLibrary.finds (Regex.ofPieces ignoreCase pieces) text =
        (expressionOf ignoreCase pieces).matchesText text := by
      change (read? _).any _ = _
      rw [read?_ofPieces]
      rfl
    rw [hfinds, matchesText, Bool.not_eq_true', List.isEmpty_eq_false_iff_exists_mem,
      List.size_toArray, expressionOf, ends_sequenceOf]
    refine (exists_mem_endsOf_iff pieces hplaces).trans ?_
    constructor
    · rintro ⟨start, _, hmatches⟩
      exact ⟨_, _, (List.take_append_drop start text).symm, hmatches⟩
    · rintro ⟨before, rest, rfl, hmatches⟩
      refine ⟨before.length, ?_, ?_⟩
      · rw [List.mem_range, List.length_append]
        omega
      · rwa [List.take_left, List.drop_left]

end Songbook.RegexEngine
