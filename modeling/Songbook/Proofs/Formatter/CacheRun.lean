import Mathlib.Data.List.Induction
import Songbook.Formatter.Cache
import Songbook.Proofs.Formatter.Dependence

/-!
# Runs of a formatter cache

A cache is asked for formatters and cleared in any order, and it empties itself when it is full and
has to take another one; between two steps the settings and the time can change. A formatter that
the cache answers was compiled under the settings of the last moment at which its pattern was
missing, whatever they were before or became later. It was compiled at the time of that moment, too:
a query in it that compares with the clock still compares with that time.
-/

namespace Songbook

/-- The key of a formatter is the one it was compiled for. -/
theorem Formatter.key_of_compile [RegexLibrary] {source : String} {dialect : Dialect}
    {settings : Path.Settings} {now : Binary64} {formatter : Formatter}
    (hcompile : compile source dialect settings now = .ok formatter) :
    (formatter.dialect, formatter.source) = (dialect, source) := by
  obtain ⟨nodes, _, rfl, _⟩ := compile_eq_ok_iff.mp hcompile
  rfl

namespace FormatterCache

/-! ## One request -/

/-- What is seen of an answer is seen of the formatter that it is. -/
theorem exists_answer_of_map {α : Type} {result : Except PatternError SharedFormatter}
    {seen : SharedFormatter → α} {shown : α} (hshown : result.toOption.map seen = some shown) :
    ∃ shared, result = .ok shared ∧ seen shared = shown := by
  cases result with
  | error error => simp [Except.toOption] at hshown
  | ok shared => exact ⟨shared, rfl, Option.some.inj hshown⟩

section Request

variable (cache : FormatterCache) (settings : Settings) (now : Binary64) (dialect : Dialect)
  (source : String)

/-- A request finds its formatter in the cache, or its pattern is refused, or a formatter is
compiled and put in. -/
theorem getOrCompile_cases [RegexLibrary] :
    (∃ shared, cache.get? dialect source = some shared ∧
      cache.getOrCompile settings now dialect source = (.ok shared, cache)) ∨
    (∃ error, cache.get? dialect source = none ∧
      Formatter.compile source dialect settings.path now = .error error ∧
      cache.getOrCompile settings now dialect source = (.error error, cache)) ∨
    (∃ formatter, cache.get? dialect source = none ∧
      Formatter.compile source dialect settings.path now = .ok formatter ∧
      cache.getOrCompile settings now dialect source =
        (.ok (cache.insert formatter).1, (cache.insert formatter).2)) := by
  unfold getOrCompile
  cases hkept : cache.get? dialect source with
  | some shared => exact Or.inl ⟨shared, rfl, rfl⟩
  | none =>
      cases hcompile : Formatter.compile source dialect settings.path now with
      | error error => exact Or.inr (Or.inl ⟨error, rfl, rfl, rfl⟩)
      | ok formatter => exact Or.inr (Or.inr ⟨formatter, rfl, rfl, rfl⟩)

variable {cache settings now dialect source}

/-- What a cache finds once it has put in a formatter for a key. -/
theorem get?_insert {formatter : Formatter}
    (hkey : (formatter.dialect, formatter.source) = (dialect, source)) (other : Dialect)
    (text : String) :
    (cache.insert formatter).2.get? other text =
      if (other, text) = (dialect, source) then some (cache.insert formatter).1
      else if cache.capacity ≤ cache.size then none
      else cache.get? other text := by
  unfold get? insert
  simp only [List.lookup_cons, hkey]
  by_cases hsame : (other, text) = (dialect, source)
  · simp [hsame]
  · rw [if_neg hsame, beq_false_of_ne hsame]
    by_cases hfull : cache.capacity ≤ cache.size
    · rw [if_pos hfull, if_pos hfull]
      rfl
    · rw [if_neg hfull, if_neg hfull]

end Request

/-! ## Runs -/

/-- What can happen to a cache and around it. -/
inductive Action where
  | request (dialect : Dialect) (source : String)
  | clear
  | configure (settings : Settings)
  | wait (now : Binary64)

/-- A cache, the settings in force and the time. -/
structure Situation where
  cache : FormatterCache
  settings : Settings
  now : Binary64

namespace Situation

/-- The situation in which a cache is made. -/
def initial (capacity : Nat) (settings : Settings) (now : Binary64) : Situation :=
  ⟨ofCapacity capacity, settings, now⟩

section Library

variable [RegexLibrary]

/-- What a request is answered. -/
def answer (situation : Situation) (dialect : Dialect) (source : String) :
    Except PatternError SharedFormatter :=
  (situation.cache.getOrCompile situation.settings situation.now dialect source).1

/-- The situation after an action. -/
def after (situation : Situation) : Action → Situation
  | .request dialect source =>
    { situation with
      cache :=
        (situation.cache.getOrCompile situation.settings situation.now dialect source).2 }
  | .clear => { situation with cache := situation.cache.clear }
  | .configure settings => { situation with settings }
  | .wait now => { situation with now }

/-- The situation after several actions. -/
def run (situation : Situation) (actions : List Action) : Situation :=
  actions.foldl after situation

/-- An action that empties the cache: clearing it, or a request that compiles a formatter for which
there is no room. -/
def Empties (situation : Situation) : Action → Prop
  | .request dialect source =>
    situation.cache.get? dialect source = none ∧
      situation.cache.capacity ≤ situation.cache.size ∧
      ∃ formatter, Formatter.compile source dialect situation.settings.path situation.now =
        .ok formatter
  | .clear => True
  | .configure _ => False
  | .wait _ => False

/-- None of these actions, one after the other, empties the cache. -/
def Keeps : Situation → List Action → Prop
  | _, [] => True
  | situation, action :: rest => ¬ situation.Empties action ∧ (situation.after action).Keeps rest

variable {situation start : Situation} {action : Action} {dialect : Dialect} {source : String}
  {shared : SharedFormatter}

theorem run_append (situation : Situation) (first second : List Action) :
    situation.run (first ++ second) = (situation.run first).run second :=
  List.foldl_append

theorem run_append_cons (situation : Situation) (first : List Action) (action : Action)
    (rest : List Action) : situation.run (first ++ action :: rest) =
      (situation.run (first ++ [action])).run rest := by
  rw [← List.singleton_append, ← List.append_assoc, run_append]

theorem run_concat (situation : Situation) (actions : List Action) (action : Action) :
    situation.run (actions ++ [action]) = (situation.run actions).after action :=
  run_append situation actions [action]

/-- What every action preserves holds after every run. -/
theorem run_invariant (property : Situation → Prop)
    (hstep : ∀ situation action, property situation → property (situation.after action))
    (hstart : property start) (actions : List Action) : property (start.run actions) := by
  induction actions generalizing start with
  | nil => exact hstart
  | cons action rest ih => exact ih (hstep start action hstart)

theorem keeps_append {first second : List Action} :
    situation.Keeps (first ++ second) ↔
      situation.Keeps first ∧ (situation.run first).Keeps second := by
  induction first generalizing situation with
  | nil => simp [Keeps, run]
  | cons action rest ih =>
      rw [List.cons_append, Keeps, Keeps, ih, and_assoc]
      rfl

/-! ## What the cache keeps -/

/-- What an action does to the cache: nothing, or it clears it, or it asks in vain for a formatter
that is then compiled and put in. -/
theorem after_cases (situation : Situation) (action : Action) :
    ((situation.after action).cache = situation.cache ∧ ¬ situation.Empties action) ∨
    (action = .clear ∧ (situation.after action).cache = situation.cache.clear) ∨
    (∃ dialect source formatter, action = .request dialect source ∧
      situation.cache.get? dialect source = none ∧
      Formatter.compile source dialect situation.settings.path situation.now = .ok formatter ∧
      (situation.after action).cache = (situation.cache.insert formatter).2) := by
  cases action with
  | clear => exact Or.inr (Or.inl ⟨rfl, rfl⟩)
  | configure settings => exact Or.inl ⟨rfl, id⟩
  | wait now => exact Or.inl ⟨rfl, id⟩
  | request dialect source =>
      rcases getOrCompile_cases situation.cache situation.settings situation.now dialect source with
        ⟨shared, hfound, hafter⟩ | ⟨error, _, hcompile, hafter⟩ |
        ⟨formatter, hmissing, hcompile, hafter⟩
      · refine Or.inl ⟨by rw [after, hafter], ?_⟩
        rintro ⟨hmissing, _⟩
        simp [hfound] at hmissing
      · refine Or.inl ⟨by rw [after, hafter], ?_⟩
        rintro ⟨_, _, formatter, hok⟩
        simp [hcompile] at hok
      · exact Or.inr (Or.inr ⟨dialect, source, formatter, rfl, hmissing, hcompile,
          by rw [after, hafter]⟩)

/-- A formatter that the cache keeps after an action was there before and the cache was not emptied,
or the action asked for it in vain and had it compiled. -/
theorem get?_after_cases
    (hkept : (situation.after action).cache.get? dialect source = some shared) :
    (situation.cache.get? dialect source = some shared ∧ ¬ situation.Empties action) ∨
    (action = .request dialect source ∧ situation.cache.get? dialect source = none ∧
      Formatter.compile source dialect situation.settings.path situation.now =
        .ok shared.formatter) := by
  rcases after_cases situation action with ⟨hcache, hkeeps⟩ | ⟨rfl, _⟩ |
    ⟨asked, text, formatter, rfl, hmissing, hcompile, hcache⟩
  · rw [hcache] at hkept
    exact Or.inl ⟨hkept, hkeeps⟩
  · cases hkept
  · rw [hcache, get?_insert (Formatter.key_of_compile hcompile)] at hkept
    split at hkept
    next hsame =>
      cases hsame
      cases hkept
      exact Or.inr ⟨rfl, hmissing, hcompile⟩
    next =>
      split at hkept
      next => cases hkept
      next hroom => exact Or.inl ⟨hkept, fun ⟨_, hfull, _⟩ => hroom hfull⟩

/-- What the cache keeps, it still keeps after an action that does not empty it. -/
theorem get?_after (hkept : situation.cache.get? dialect source = some shared)
    (hkeeps : ¬ situation.Empties action) :
    (situation.after action).cache.get? dialect source = some shared := by
  rcases after_cases situation action with ⟨hcache, _⟩ | ⟨rfl, _⟩ |
    ⟨asked, text, formatter, rfl, hmissing, hcompile, hcache⟩
  · rwa [hcache]
  · exact absurd trivial hkeeps
  · have hother : (dialect, source) ≠ (asked, text) := by
      rintro hsame
      cases hsame
      simp [hkept] at hmissing
    have hroom : ¬ situation.cache.capacity ≤ situation.cache.size :=
      fun hfull => hkeeps ⟨hmissing, hfull, formatter, hcompile⟩
    rwa [hcache, get?_insert (Formatter.key_of_compile hcompile), if_neg hother, if_neg hroom]

theorem get?_run {actions : List Action}
    (hkept : situation.cache.get? dialect source = some shared) (hkeeps : situation.Keeps actions) :
    (situation.run actions).cache.get? dialect source = some shared := by
  induction actions generalizing situation with
  | nil => exact hkept
  | cons action rest ih => exact ih (get?_after hkept hkeeps.1) hkeeps.2

theorem answer_of_get? (hkept : situation.cache.get? dialect source = some shared) :
    situation.answer dialect source = .ok shared := by
  simp [answer, getOrCompile, hkept]

/-- What a request was answered is in the cache afterwards. -/
theorem get?_after_request (hanswer : situation.answer dialect source = .ok shared) :
    (situation.after (.request dialect source)).cache.get? dialect source = some shared := by
  rcases getOrCompile_cases situation.cache situation.settings situation.now dialect source with
    ⟨found, hfound, hafter⟩ | ⟨_, _, _, hafter⟩ | ⟨formatter, _, hcompile, hafter⟩
  · rw [answer, hafter] at hanswer
    cases hanswer
    rwa [after, hafter]
  · rw [answer, hafter] at hanswer
    cases hanswer
  · rw [answer, hafter] at hanswer
    cases hanswer
    rw [after, hafter, get?_insert (Formatter.key_of_compile hcompile), if_pos rfl]

/-! ## Where a formatter comes from -/

/-- How a formatter came into a run: a request missed it and had it compiled under the settings of
that moment. Nothing has emptied the cache since then, and the formatter has been in it all the
time, so that no later request missed it. -/
structure Origin (start : Situation) (actions : List Action) (dialect : Dialect) (source : String)
    (shared : SharedFormatter) (earlier later : List Action) : Prop where
  actions_eq : actions = earlier ++ .request dialect source :: later
  missed : (start.run earlier).cache.get? dialect source = none
  compiled : Formatter.compile source dialect (start.run earlier).settings.path
    (start.run earlier).now = .ok shared.formatter
  keeps : (start.run (earlier ++ [.request dialect source])).Keeps later
  kept : ∀ between, between <+: later →
    (start.run (earlier ++ .request dialect source :: between)).cache.get? dialect source =
      some shared

/-- Every formatter in a cache that started empty has an origin. -/
theorem exists_origin {actions : List Action} (hstart : start.cache.entries = [])
    (hkept : (start.run actions).cache.get? dialect source = some shared) :
    ∃ earlier later, Origin start actions dialect source shared earlier later := by
  induction actions using List.reverseRecOn with
  | nil =>
      have hnone : start.cache.get? dialect source = none := by rw [get?, hstart]; rfl
      rw [run, List.foldl_nil, hnone] at hkept
      cases hkept
  | append_singleton actions action ih =>
      have hlast := hkept
      rw [run_concat] at hlast
      rcases get?_after_cases hlast with ⟨hbefore, hkeeps⟩ | ⟨rfl, hmissing, hcompile⟩
      · obtain ⟨earlier, later, horigin⟩ := ih hbefore
        have hsplit : actions ++ [action] =
            earlier ++ .request dialect source :: (later ++ [action]) := by
          rw [horigin.actions_eq, List.append_assoc, List.cons_append]
        refine ⟨earlier, later ++ [action], hsplit, horigin.missed, horigin.compiled, ?_, ?_⟩
        · rw [keeps_append, ← run_append, List.append_assoc, List.singleton_append,
            ← horigin.actions_eq]
          exact ⟨horigin.keeps, hkeeps, trivial⟩
        · intro between hbetween
          rcases List.prefix_concat_iff.mp hbetween with rfl | hbetween
          · rwa [← hsplit]
          · exact horigin.kept between hbetween
      · refine ⟨actions, [], rfl, hmissing, hcompile, trivial, ?_⟩
        intro between hbetween
        obtain rfl := List.prefix_nil.mp hbetween
        exact hkept

end Library

/-! ## Formatters that were handed out -/

variable {situation start : Situation} {dialect : Dialect} {source : String}
  {shared : SharedFormatter}

/-- A formatter has been numbered, and only its own key can have it in the cache. -/
structure Knows (cache : FormatterCache) (key : Dialect × String) (shared : SharedFormatter) :
    Prop where
  numbered : shared.serial < cache.compiled
  only : ∀ entry ∈ cache.entries, entry.2.serial = shared.serial → entry = (key, shared)

/-- The cache knows each formatter it keeps. -/
def Numbered (cache : FormatterCache) : Prop :=
  ∀ entry ∈ cache.entries, Knows cache entry.1 entry.2

theorem mem_entries_of_get? {cache : FormatterCache}
    (hkept : cache.get? dialect source = some shared) :
    ((dialect, source), shared) ∈ cache.entries := by
  obtain ⟨before, rest, hentries, _⟩ := List.lookup_eq_some_iff.mp hkept
  simp [hentries]

theorem mem_insert {cache : FormatterCache} {formatter : Formatter}
    {entry : (Dialect × String) × SharedFormatter}
    (hmem : entry ∈ (cache.insert formatter).2.entries) :
    entry = ((formatter.dialect, formatter.source), ⟨cache.compiled, formatter⟩) ∨
      entry ∈ cache.entries := by
  rcases List.mem_cons.mp hmem with rfl | hmem
  · exact Or.inl rfl
  · split at hmem
    · cases hmem
    · exact Or.inr hmem

theorem Knows.insert {cache : FormatterCache} {key : Dialect × String}
    (hknows : Knows cache key shared) (formatter : Formatter) :
    Knows (cache.insert formatter).2 key shared where
  numbered := Nat.lt_succ_of_lt hknows.numbered
  only := by
    intro entry hmem hserial
    rcases mem_insert hmem with rfl | hmem
    · exact absurd hserial.symm (Nat.ne_of_lt hknows.numbered)
    · exact hknows.only entry hmem hserial

theorem Numbered.insert {cache : FormatterCache} (hnumbered : Numbered cache)
    (formatter : Formatter) : Numbered (cache.insert formatter).2 := by
  intro entry hmem
  rcases mem_insert hmem with rfl | hmem
  · refine ⟨Nat.lt_succ_self _, ?_⟩
    intro other hother hserial
    rcases mem_insert hother with rfl | hother
    · rfl
    · exact absurd hserial (Nat.ne_of_lt (hnumbered other hother).numbered)
  · exact (hnumbered entry hmem).insert formatter

section Library

variable [RegexLibrary]

theorem knows_after {key : Dialect × String} (hknows : Knows situation.cache key shared)
    (action : Action) : Knows (situation.after action).cache key shared := by
  rcases after_cases situation action with ⟨hcache, _⟩ | ⟨_, hcache⟩ |
    ⟨_, _, formatter, _, _, _, hcache⟩
  · rwa [hcache]
  · rw [hcache]
    exact ⟨hknows.numbered, fun _ hmem => by cases hmem⟩
  · rw [hcache]
    exact hknows.insert formatter

theorem numbered_after (hnumbered : Numbered situation.cache) (action : Action) :
    Numbered (situation.after action).cache := by
  rcases after_cases situation action with ⟨hcache, _⟩ | ⟨_, hcache⟩ |
    ⟨_, _, formatter, _, _, _, hcache⟩
  · rwa [hcache]
  · rw [hcache]
    exact fun _ hmem => by cases hmem
  · rw [hcache]
    exact hnumbered.insert formatter

/-- Whoever holds a formatter holds the only one of its number, now and later. -/
theorem knows_run (actions : List Action) (hnumbered : Numbered situation.cache)
    (hanswer : situation.answer dialect source = .ok shared) :
    Knows ((situation.after (.request dialect source)).run actions).cache (dialect, source)
      shared := by
  have hmem := mem_entries_of_get? (get?_after_request hanswer)
  exact run_invariant (fun situation => Knows situation.cache (dialect, source) shared)
    (fun _ action hknows => knows_after hknows action)
    (numbered_after hnumbered (.request dialect source) _ hmem) actions

/-! ## Settings that do not change -/

/-- No action changes the settings of path output. -/
def KeepsPath (start : Situation) (actions : List Action) : Prop :=
  ∀ settings, .configure settings ∈ actions → settings.path = start.settings.path

theorem KeepsPath.path_run {actions : List Action} (hkeeps : start.KeepsPath actions) :
    (start.run actions).settings.path = start.settings.path := by
  induction actions using List.reverseRecOn with
  | nil => rfl
  | append_singleton actions action ih =>
      have hbefore := ih fun settings hmem => hkeeps settings (List.mem_append_left _ hmem)
      rw [run_concat]
      cases action with
      | request asked text => exact hbefore
      | clear => exact hbefore
      | configure settings => exact hkeeps settings (List.mem_append_right _ List.mem_cons_self)
      | wait now => exact hbefore

/-- A formatter was compiled at an instant: the last one at which a request missed its key. -/
def CompiledAt (start : Situation) (actions : List Action) (dialect : Dialect) (source : String)
    (shared : SharedFormatter) (now : Binary64) : Prop :=
  ∃ earlier later, Origin start actions dialect source shared earlier later ∧
    (start.run earlier).now = now

/-- Under settings of path output that do not change, the instant alone decides what a pattern
compiles to. -/
theorem CompiledAt.compile_eq {actions : List Action} {now : Binary64}
    (hcompiled : CompiledAt start actions dialect source shared now)
    (hkeeps : start.KeepsPath actions) :
    Formatter.compile source dialect start.settings.path now = .ok shared.formatter := by
  obtain ⟨earlier, later, horigin, rfl⟩ := hcompiled
  have hearlier : start.KeepsPath earlier := by
    intro settings hmem
    rw [horigin.actions_eq] at hkeeps
    exact hkeeps settings (List.mem_append_left _ hmem)
  rw [← hearlier.path_run]
  exact horigin.compiled

theorem exists_compiledAt {actions : List Action} (hstart : start.cache.entries = [])
    (hanswer : (start.run actions).answer dialect source = .ok shared) :
    ∃ now, CompiledAt start (actions ++ [.request dialect source]) dialect source shared now := by
  have hkept := get?_after_request hanswer
  rw [← run_concat] at hkept
  obtain ⟨earlier, later, horigin⟩ := exists_origin hstart hkept
  exact ⟨_, earlier, later, horigin, rfl⟩

/-! ## Answers -/

/-- What an answer is worth in the run of a cache that was made in some situation. -/
structure Serves (start : Situation) (past : List Action) (dialect : Dialect) (source : String)
    (shared : SharedFormatter) : Prop where
  /-- It holds the formatter that the settings gave when the key was last missed and compiled. -/
  origin : ∃ earlier later,
    Origin start (past ++ [.request dialect source]) dialect source shared earlier later
  /-- As long as nothing empties the cache, the key is answered by the same shared formatter. -/
  again : ∀ between,
    (start.run (past ++ [.request dialect source])).Keeps between →
      (start.run (past ++ .request dialect source :: between)).answer dialect source = .ok shared
  /-- Whatever happens later, the shared formatter stays what it is and belongs to its key. -/
  unchanged : ∀ later asked text other,
    (start.run (past ++ .request dialect source :: later)).answer asked text = .ok other →
      other.serial = shared.serial → other = shared ∧ asked = dialect ∧ text = source
  /-- As long as the settings of path output are the same, each answer for the key holds what the
  pattern compiles to under them at the instant at which the key was last missed. The clock can make
  two answers differ: they hold the same formatter if the names in the pattern read as the same
  queries at the two instants. -/
  steady : ∀ later other, start.KeepsPath (past ++ .request dialect source :: later) →
    (start.run (past ++ .request dialect source :: later)).answer dialect source = .ok other →
      ∃ early late,
        CompiledAt start (past ++ [.request dialect source]) dialect source shared early ∧
        CompiledAt start (past ++ .request dialect source :: later ++ [.request dialect source])
          dialect source other late ∧
        Formatter.compile source dialect start.settings.path early = .ok shared.formatter ∧
        Formatter.compile source dialect start.settings.path late = .ok other.formatter ∧
        (Formatter.ReadsAlike dialect source early late → other.formatter = shared.formatter)

/-- In every run of a cache, each answer holds the formatter that its pattern compiled to when it
was last missing. The same shared formatter answers until the cache is emptied, and it never changes.
While the settings of path output stay as they are, the answers for a key differ at most by the
instants at which they were compiled, and not at all if these read the queries of the pattern
alike. -/
theorem serves_of_answer {capacity : Nat} {settings : Settings} {now : Binary64}
    {past : List Action}
    (hanswer : ((initial capacity settings now).run past).answer dialect source = .ok shared) :
    (initial capacity settings now).Serves past dialect source shared := by
  have hkept := get?_after_request hanswer
  rw [← run_concat] at hkept
  refine ⟨exists_origin rfl hkept, ?_, ?_, ?_⟩
  · intro between hkeeps
    rw [run_append_cons]
    exact answer_of_get? (get?_run hkept hkeeps)
  · intro later asked text other hother hserial
    have hnumbered : Numbered ((initial capacity settings now).run past).cache :=
      run_invariant (fun situation => Numbered situation.cache)
        (fun _ action hbefore => numbered_after hbefore action) (fun _ hmem => by cases hmem) past
    have hknows := knows_after (knows_run later hnumbered hanswer) (.request asked text)
    rw [run_append_cons, run_concat] at hother
    have hmem := mem_entries_of_get? (get?_after_request hother)
    have hentry := hknows.only _ hmem hserial
    simp only [Prod.mk.injEq] at hentry
    exact ⟨hentry.2, hentry.1⟩
  · intro later other hkeeps hother
    obtain ⟨early, hearly⟩ := exists_compiledAt rfl hanswer
    obtain ⟨late, hlate⟩ := exists_compiledAt rfl hother
    have hpast : (initial capacity settings now).KeepsPath (past ++ [.request dialect source]) :=
      fun settings hmem => hkeeps settings (by simpa using Or.inl hmem)
    have hwhole : (initial capacity settings now).KeepsPath
        (past ++ .request dialect source :: later ++ [.request dialect source]) :=
      fun settings hmem => hkeeps settings (by simpa using hmem)
    have hfirst := hearly.compile_eq hpast
    have hsecond := hlate.compile_eq hwhole
    refine ⟨early, late, hearly, hlate, hfirst, hsecond, fun halike => ?_⟩
    rw [Formatter.compile_congr halike, hsecond] at hfirst
    exact Except.ok.inj hfirst

end Library

/-- A run in which the limit changes and a second pattern takes the place of the first one. -/
def limited : List Action :=
  [.request .path "/<title>", .configure (Settings.setSegmentLimit {} 8),
    .request .markup "<artist>"]

/-- The pattern is compiled once more, under the new limit. -/
theorem serves_limited_title :
    ∃ shared, ((initial 1 {} 0).run limited).answer .path "/<title>" = .ok shared ∧
      (shared.serial, shared.formatter.settings.segmentLimit) = (2, 8) ∧
      (initial 1 {} 0).Serves limited .path "/<title>" shared := by
  have hanswered : (((initial 1 {} 0).run limited).answer .path "/<title>").toOption.map
      (fun shared => (shared.serial, shared.formatter.settings.segmentLimit)) = some (2, 8) := by
    decide +kernel
  obtain ⟨shared, hanswer, hshown⟩ := exists_answer_of_map hanswered
  exact ⟨shared, hanswer, hshown, serves_of_answer hanswer⟩

/-- A song that was stored twelve days after the epoch, and a pattern that tells new ones from old. -/
def stored : Song where
  fields := [("~#added", ["1000000"])]

@[inherit_doc stored]
def recent : String := "<#(added\\<1 day)|new|old>"

/-- A query that compares with the clock is read when its pattern is compiled. So two formatters for
one key can show a song in two ways although the settings are the same: one was compiled ten seconds
after the song was stored, and the other, once the cache had been cleared, twelve days later. -/
theorem recent_compiled_twice :
    ∃ shared, (initial 1 {} 1000010).answer .plain recent = .ok shared ∧
      shared.formatter.format stored.toRecord = "new" ∧
      ¬ ∀ later other, (initial 1 {} 1000010).KeepsPath (.request .plain recent :: later) →
        ((initial 1 {} 1000010).run (.request .plain recent :: later)).answer .plain recent =
          .ok other →
        ∀ record, other.formatter.format record = shared.formatter.format record := by
  have hnew : ((initial 1 {} 1000010).answer .plain recent).toOption.map
      (fun shared => shared.formatter.format stored.toRecord) = some "new" := by decide +kernel
  have hold : (((initial 1 {} 1000010).run [.request .plain recent, .clear, .wait 2000000]).answer
      .plain recent).toOption.map (fun shared => shared.formatter.format stored.toRecord) =
        some "old" := by decide +kernel
  obtain ⟨shared, hfirst, hshown⟩ := exists_answer_of_map hnew
  obtain ⟨other, hsecond, hlater⟩ := exists_answer_of_map hold
  refine ⟨shared, hfirst, hshown, fun hsame => ?_⟩
  have hkeeps : (initial 1 {} 1000010).KeepsPath
      [.request .plain recent, .clear, .wait 2000000] := by simp [KeepsPath]
  have hequal := hsame [.clear, .wait 2000000] other hkeeps hsecond stored.toRecord
  rw [hshown, hlater] at hequal
  exact absurd hequal (by decide)

end Situation

end FormatterCache

end Songbook
