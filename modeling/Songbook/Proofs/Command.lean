import Songbook.Command
import Songbook.Proofs.Query.Elements
import Songbook.SongFile.Json

/-!
# What commands write

Everything a command can fail at comes before its first line, so a command that fails has written
nothing. A query and its negation part the lines that are written for all songs: each song has its line
written for exactly one of the two, in the order of the file.
-/

namespace Songbook

namespace Query

/-- The negation of a single expression is read as the negation of what the expression means, unless
it is nested too deeply. -/
theorem parse_not [RegexLibrary] {now : Binary64} {query : String} {predicate : Predicate}
    (hquery : IsExpression now maxDepth query predicate)
    (hdepth : ∀ offset, parse ("!" ++ query) now ≠ .error (.malformed offset .nestedTooDeeply)) :
    parse ("!" ++ query) now = .ok (.negation predicate) := by
  obtain ⟨rest, hread, hrest⟩ := hquery
  have htext : ("!" ++ query).toList = '!' :: query.toList := String.toList_append
  have hnegated : expression now maxDepth ('!' :: query.toList) =
      negated (expression now (maxDepth - 1)) query.toList := rfl
  rcases expression_restricts now (maxDepth - 1) query.toList with ⟨place, hrefused⟩ | hsame
  · have hstart : Text.trimStart ('!' :: query.toList) = '!' :: query.toList :=
      Text.trimStart_of_head (by decide) _
    have hround : expressions now maxDepth (('!' :: query.toList).length + 1) ('!' :: query.toList) =
        .error (.misplaced place .nestedTooDeeply) := by
      simp only [expressions, hstart, hnegated, negated, hrefused]
    apply absurd _ (hdepth (Text.byteLength ('!' :: query.toList) - Text.byteLength place))
    rw [parse, parseWithin, htext, hround]
    rfl
  · apply parse_of_isExpression
    refine ⟨rest, ?_, hrest⟩
    rw [htext, hnegated]
    exact negated_eq_ok_iff.mpr ⟨predicate, hsame.trans hread, rfl⟩

end Query

namespace Command

/-! ## Printing -/

/-- A program that does not fail and writes the given lines. -/
def Prints (program : Printing Unit) (lines : List String) : Prop :=
  ∀ written, program.run.run written = (.ok (), written ++ lines)

/-- A program that has written nothing if it fails. -/
def FailsFirst (program : Printing Unit) : Prop :=
  ∀ written error later, program.run.run written = (.error error, later) → later = written

theorem prints_writeLine (line : String) : Prints (writeLine line) [line] :=
  fun _ => rfl

theorem Prints.append {first second : Printing Unit} {lines more : List String}
    (hfirst : Prints first lines) (hsecond : Prints second more) :
    Prints (first >>= fun _ => second) (lines ++ more) := by
  intro written
  rw [ExceptT.run_bind, StateT.run_bind, hfirst, ← List.append_assoc]
  exact hsecond _

/-- What is written for several items stands in their order. -/
theorem Prints.forM {α : Type} {program : α → Printing Unit} {lines : α → List String}
    (hprints : ∀ x, Prints (program x) (lines x)) (items : List α) :
    Prints (items.forM program) (items.flatMap lines) := by
  induction items with
  | nil => exact fun written => congrArg (Except.ok (), ·) (List.append_nil written).symm
  | cons item rest ih => exact (hprints item).append ih

theorem prints_line {α : Type} (items : List α) (line : α → String) :
    Prints (items.forM fun item => writeLine (line item)) (items.map line) := by
  rw [List.map_eq_flatMap]
  exact .forM (fun item => prints_writeLine (line item)) items

theorem prints_lines (lines : List String) : Prints (lines.forM writeLine) lines := by
  have hprints := Prints.forM prints_writeLine lines
  rwa [List.flatMap_singleton'] at hprints

theorem Prints.failsFirst {program : Printing Unit} {lines : List String}
    (hprints : Prints program lines) : FailsFirst program := by
  intro written error later hfails
  rw [hprints] at hfails
  cases hfails

section Bind

variable {α : Type} {result : Except CommandError α} {next : α → Printing Unit}

theorem FailsFirst.bind (hnext : ∀ a, FailsFirst (next a)) :
    FailsFirst (liftM result >>= next) := by
  intro written error later hfails
  cases result with
  | error fault =>
      cases hfails
      rfl
  | ok a => exact hnext a written error later hfails

theorem Prints.bind {a : α} {lines : List String} (hresult : result = .ok a)
    (hnext : Prints (next a) lines) : Prints (liftM result >>= next) lines := by
  subst hresult
  exact hnext

end Bind

theorem print_failsFirst [RegexLibrary] [SongFile.Decoder] (context : Context) (command : Command) :
    FailsFirst (command.print context) := by
  cases command with
  | format pattern songs dialect =>
      apply FailsFirst.bind
      intro formatter
      apply FailsFirst.bind
      intro songs
      exact (prints_line songs _).failsFirst
  | combinations pattern songs dialect =>
      apply FailsFirst.bind
      intro formatter
      apply FailsFirst.bind
      intro songs
      have hsong (song : Song) := prints_lines (formatter.formatAll song.toRecord)
      exact (Prints.forM hsong songs).failsFirst
  | filter query songs pattern =>
      apply FailsFirst.bind
      intro predicate
      apply FailsFirst.bind
      intro formatter
      apply FailsFirst.bind
      intro songs
      exact (prints_line _ _).failsFirst
  | tags pattern =>
      apply FailsFirst.bind
      intro formatter
      exact (prints_lines formatter.tags).failsFirst

/-! ## Filters -/

section Filter

variable [RegexLibrary] [SongFile.Decoder] {context : Context} {path pattern query : String}
  {songs : List Song} {formatter : Formatter} {predicate : Predicate}

theorem outcome_format (hsongs : loadSongs context path = .ok songs)
    (hpattern : compilePattern context pattern .plain = .ok formatter) :
    outcome context (.format pattern path .plain) =
      (.ok (), songs.map fun song => formatter.format song.toRecord) := by
  have hprints : Prints (print context (.format pattern path .plain))
      (songs.map fun song => formatter.format song.toRecord) := by
    apply Prints.bind hpattern
    apply Prints.bind hsongs
    exact prints_line songs _
  exact hprints []

theorem outcome_filter (hquery : Query.parse query context.now = .ok predicate)
    (hsongs : loadSongs context path = .ok songs)
    (hpattern : compilePattern context pattern .plain = .ok formatter) :
    outcome context (.filter query path pattern) =
      (.ok (), (songs.filter fun song => predicate.holds song.toRecord).map fun song =>
        formatter.format song.toRecord) := by
  have hread : readQuery context query = .ok predicate := by
    rw [readQuery, hquery]
    rfl
  have hprints : Prints (print context (.filter query path pattern))
      ((songs.filter fun song => predicate.holds song.toRecord).map fun song =>
        formatter.format song.toRecord) := by
    apply Prints.bind hread
    apply Prints.bind hpattern
    apply Prints.bind hsongs
    exact prints_line _ _
  exact hprints []

end Filter

/-- A query that is a single expression and its negation part the songs of a file: the lines that
filtering by the one and by the other writes are selections, in their order, of the lines that
formatting writes, and make them up together. A command that fails has written nothing. -/
theorem filter_parts_lines [RegexLibrary] [SongFile.Decoder] :
    (∀ (context : Context) (path text pattern query : String) {songs : List Song}
        {formatter : Formatter} {predicate : Predicate},
      context.read path = .ok text → SongFile.parse? text = some songs →
      Formatter.compile pattern .plain context.settings.path context.now = .ok formatter →
      Query.IsExpression context.now Query.maxDepth query predicate →
      (∀ offset, Query.parse ("!" ++ query) context.now ≠
        .error (.malformed offset .nestedTooDeeply)) →
      let line (song : Song) : String := formatter.format song.toRecord
      let matched (song : Song) : Bool := predicate.holds song.toRecord
      let lines := songs.map line
      let selected := (songs.filter matched).map line
      let others := (songs.filter fun song => !matched song).map line
      outcome context (.format pattern path .plain) = (.ok (), lines) ∧
        outcome context (.filter query path pattern) = (.ok (), selected) ∧
        outcome context (.filter ("!" ++ query) path pattern) = (.ok (), others) ∧
        selected.Sublist lines ∧ others.Sublist lines ∧ (selected ++ others).Perm lines) ∧
    ∀ (context : Context) (command : Command) (error : CommandError),
      (outcome context command).1 = .error error → (outcome context command).2 = [] := by
  constructor
  · intro context path text pattern query songs formatter predicate hread hdecoded hcompiled hquery
      hdepth line matched lines selected others
    have hsongs : loadSongs context path = .ok songs := by
      simp only [loadSongs, hread, hdecoded]
    have hpattern : compilePattern context pattern .plain = .ok formatter := by
      rw [compilePattern, hcompiled]
      rfl
    have hall := outcome_format hsongs hpattern
    have hselected := outcome_filter (Query.parse_of_isExpression hquery) hsongs hpattern
    have hothers := outcome_filter (Query.parse_not hquery hdepth) hsongs hpattern
    refine ⟨hall, hselected, hothers, ?_, ?_, ?_⟩
    · exact List.filter_sublist.map line
    · exact List.filter_sublist.map line
    · rw [← List.map_append]
      exact (List.filter_append_perm matched songs).map line
  · intro context command error hfails
    apply print_failsFirst context command [] error
    exact Prod.ext hfails rfl

/-- A file of three songs: one by Ann, one of seven minutes, and one of which neither is known. -/
def trioText : String :=
  "[\x7b\"title\": \"Air\", \"artist\": \"Ann\"\x7d, \x7b\"title\": \"Long\", \"length\": 420\x7d, " ++
    "\x7b\"title\": \"Rest\"\x7d]"

def trioContext : Context where
  settings := {}
  now := 0
  read _ := .ok trioText

theorem filter_parts_trio :
    let query := "|(artist=ann, #(length > 5 minutes))"
    let path := "songs.json"
    (∃ songs, SongFile.parse? trioText = some songs) ∧
      (∃ formatter, Formatter.compile "<title>" .plain trioContext.settings.path trioContext.now =
        .ok formatter) ∧
      (∃ predicate, Query.IsExpression trioContext.now Query.maxDepth query predicate) ∧
      (∀ offset, Query.parse ("!" ++ query) trioContext.now ≠
        .error (.malformed offset .nestedTooDeeply)) ∧
      outcome trioContext (.format "<title>" path .plain) = (.ok (), ["Air", "Long", "Rest"]) ∧
      outcome trioContext (.filter query path "<title>") = (.ok (), ["Air", "Long"]) ∧
      outcome trioContext (.filter ("!" ++ query) path "<title>") = (.ok (), ["Rest"]) ∧
      ["Air", "Long"].Sublist ["Air", "Long", "Rest"] ∧ ["Rest"].Sublist ["Air", "Long", "Rest"] ∧
      (["Air", "Long"] ++ ["Rest"]).Perm ["Air", "Long", "Rest"] ∧
      ∃ error, (outcome trioContext (.filter "&(" path "<title>")).1 = .error error ∧
        (outcome trioContext (.filter "&(" path "<title>")).2 = [] := by
  intro query path
  have hdecoded : (SongFile.parse? trioText).isSome = true := by decide +kernel
  obtain ⟨songs, hsongs⟩ := Option.isSome_iff_exists.mp hdecoded
  obtain ⟨formatter, hcompiled⟩ : ∃ formatter, Formatter.compile "<title>" .plain
      trioContext.settings.path trioContext.now = .ok formatter :=
    ⟨_, Query.eq_ok_of_isSome (by decide +kernel)⟩
  have hexpression : ∃ predicate,
      Query.IsExpression trioContext.now Query.maxDepth query predicate := by decide +kernel
  obtain ⟨predicate, hquery⟩ := hexpression
  have hdepth : ∀ offset, Query.parse ("!" ++ query) trioContext.now ≠
      .error (.malformed offset .nestedTooDeeply) := by
    have haccepted : (Query.parse ("!" ++ query) trioContext.now).toOption.isSome = true := by
      decide +kernel
    intro offset hrefused
    rw [hrefused] at haccepted
    cases haccepted
  obtain ⟨hall, hselected, hothers, hparts⟩ :=
    filter_parts_lines.1 trioContext path trioText "<title>" query rfl hsongs hcompiled hquery hdepth
  have hlines : (outcome trioContext (.format "<title>" path .plain)).2 =
      ["Air", "Long", "Rest"] := by decide +kernel
  have hmatched : (outcome trioContext (.filter query path "<title>")).2 = ["Air", "Long"] := by
    decide +kernel
  have hrest : (outcome trioContext (.filter ("!" ++ query) path "<title>")).2 = ["Rest"] := by
    decide +kernel
  simp only [hall] at hlines
  simp only [hselected] at hmatched
  simp only [hothers] at hrest
  rw [hlines] at hall hparts
  rw [hmatched] at hselected hparts
  rw [hrest] at hothers hparts
  have hfails : (outcome trioContext (.filter "&(" path "<title>")).1.toOption.isSome = false := by
    decide +kernel
  cases hending : (outcome trioContext (.filter "&(" path "<title>")).1 with
  | ok ending =>
      rw [hending] at hfails
      cases hfails
  | error error =>
      exact ⟨⟨songs, hsongs⟩, ⟨formatter, hcompiled⟩, ⟨predicate, hquery⟩, hdepth, hall, hselected,
        hothers, hparts.1, hparts.2.1, hparts.2.2, error, rfl,
        filter_parts_lines.2 trioContext _ error hending⟩

end Command

end Songbook
