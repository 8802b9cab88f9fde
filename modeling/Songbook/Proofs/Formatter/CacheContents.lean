import Songbook.Proofs.Formatter.CacheRun

/-!
# What a formatter cache holds

A cache never holds more formatters than it was made for, and at most one for a dialect and a pattern.
A request that finds its formatter leaves everything in its place, and so does one whose pattern is
refused, even if there would have been no room. A formatter that has to be compiled joins the others as
long as there is room, and in a full cache it takes the place of all of them.
-/

namespace Songbook

namespace FormatterCache

variable {capacity : Nat} {cache : FormatterCache} {dialect : Dialect} {source : String}

/-- A cache holds at most what it was made for, at least one formatter, and each formatter under the
key that it was compiled for. -/
structure Bounded (capacity : Nat) (cache : FormatterCache) : Prop where
  capacity_eq : cache.capacity = max capacity 1
  size_le : cache.size ≤ cache.capacity
  distinct : (cache.entries.map Prod.fst).Nodup
  key_eq : ∀ entry ∈ cache.entries,
    (entry.2.formatter.dialect, entry.2.formatter.source) = entry.1

theorem bounded_ofCapacity (capacity : Nat) : Bounded capacity (ofCapacity capacity) where
  capacity_eq := rfl
  size_le := Nat.zero_le _
  distinct := List.nodup_nil
  key_eq := nofun

theorem Bounded.clear (hbounded : Bounded capacity cache) : Bounded capacity cache.clear where
  capacity_eq := hbounded.capacity_eq
  size_le := Nat.zero_le _
  distinct := List.nodup_nil
  key_eq := nofun

/-- What a cache does not find it does not hold. -/
theorem key_not_mem_of_get? (hmissing : cache.get? dialect source = none) :
    (dialect, source) ∉ cache.entries.map Prod.fst := by
  rw [get?, List.lookup_eq_none_iff] at hmissing
  rintro hmem
  obtain ⟨entry, hentry, hkey⟩ := List.mem_map.mp hmem
  have hother := hmissing entry hentry
  rw [hkey] at hother
  simp at hother

/-- A formatter that is put in stands before the others, unless the cache was full of them. -/
theorem entries_insert (cache : FormatterCache) (formatter : Formatter) :
    (cache.insert formatter).2.entries =
      ((formatter.dialect, formatter.source), (cache.insert formatter).1) ::
        if cache.capacity ≤ cache.size then [] else cache.entries :=
  rfl

theorem Bounded.insert (hbounded : Bounded capacity cache) {formatter : Formatter}
    (hmissing : cache.get? formatter.dialect formatter.source = none) :
    Bounded capacity (cache.insert formatter).2 := by
  have hpositive : 1 ≤ cache.capacity := by
    rw [hbounded.capacity_eq]
    exact Nat.le_max_right capacity 1
  refine ⟨hbounded.capacity_eq, ?_, ?_, ?_⟩
  · change (cache.insert formatter).2.entries.length ≤ cache.capacity
    rw [entries_insert, List.length_cons]
    split
    next => exact hpositive
    next hroom => exact Nat.lt_of_not_le hroom
  · rw [entries_insert, List.map_cons, List.nodup_cons]
    split
    next => simp
    next => exact ⟨key_not_mem_of_get? hmissing, hbounded.distinct⟩
  · intro entry hentry
    rcases Situation.mem_insert hentry with rfl | hentry
    · rfl
    · exact hbounded.key_eq entry hentry

namespace Situation

variable [RegexLibrary] {situation : Situation}

/-- No action takes a cache out of its bounds. -/
theorem bounded_after (hbounded : Bounded capacity situation.cache) (action : Action) :
    Bounded capacity (situation.after action).cache := by
  rcases after_cases situation action with ⟨hcache, _⟩ | ⟨_, hcache⟩ |
    ⟨dialect, source, formatter, _, hmissing, hcompile, hcache⟩
  · rwa [hcache]
  · rw [hcache]
    exact hbounded.clear
  · rw [hcache]
    apply hbounded.insert
    have hkey := Formatter.key_of_compile hcompile
    cases hkey
    exact hmissing

theorem bounded_run (capacity : Nat) (settings : Settings) (now : Binary64)
    (actions : List Action) :
    Bounded capacity ((initial capacity settings now).run actions).cache :=
  run_invariant (fun situation => Bounded capacity situation.cache)
    (fun _ action hbounded => bounded_after hbounded action) (bounded_ofCapacity capacity) actions

/-- What a request for a pattern does to the cache of a situation. -/
structure Responds (situation : Situation) (dialect : Dialect) (source : String) : Prop where
  /-- A formatter that is there is the answer, and nothing changes. -/
  hit : ∀ shared, situation.cache.get? dialect source = some shared →
    situation.answer dialect source = .ok shared ∧
      (situation.after (.request dialect source)).cache = situation.cache
  /-- A pattern that is refused changes nothing, whether or not there was room. -/
  refused : ∀ error, situation.answer dialect source = .error error →
    (situation.after (.request dialect source)).cache = situation.cache
  /-- What is answered is in the cache. -/
  present : ∀ shared, situation.answer dialect source = .ok shared →
    (situation.after (.request dialect source)).cache.get? dialect source = some shared
  /-- A formatter that is missing and compiles is added to the others as long as there is room. -/
  added : ∀ formatter, situation.cache.get? dialect source = none →
    Formatter.compile source dialect situation.settings.path situation.now = .ok formatter →
    situation.cache.size < situation.cache.capacity →
    ∃ shared, situation.answer dialect source = .ok shared ∧ shared.formatter = formatter ∧
      (situation.after (.request dialect source)).cache.entries =
        ((dialect, source), shared) :: situation.cache.entries
  /-- If there is no room, it is then the only one. -/
  alone : ∀ formatter, situation.cache.get? dialect source = none →
    Formatter.compile source dialect situation.settings.path situation.now = .ok formatter →
    situation.cache.size = situation.cache.capacity →
    ∃ shared, situation.answer dialect source = .ok shared ∧ shared.formatter = formatter ∧
      (situation.after (.request dialect source)).cache.entries = [((dialect, source), shared)]

/-- A formatter that is missing and compiles is the answer, and it is put in. -/
theorem request_of_compile {formatter : Formatter}
    (hmissing : situation.cache.get? dialect source = none)
    (hcompile : Formatter.compile source dialect situation.settings.path situation.now =
      .ok formatter) :
    situation.answer dialect source = .ok (situation.cache.insert formatter).1 ∧
      (situation.after (.request dialect source)).cache.entries =
        ((dialect, source), (situation.cache.insert formatter).1) ::
          if situation.cache.capacity ≤ situation.cache.size then []
          else situation.cache.entries := by
  have hrequest : situation.cache.getOrCompile situation.settings situation.now dialect source =
      (.ok (situation.cache.insert formatter).1, (situation.cache.insert formatter).2) := by
    simp [getOrCompile, hmissing, hcompile]
  rw [answer, after, hrequest, entries_insert, Formatter.key_of_compile hcompile]
  exact ⟨rfl, rfl⟩

theorem responds (situation : Situation) (dialect : Dialect) (source : String) :
    situation.Responds dialect source where
  hit shared hkept := by
    refine ⟨answer_of_get? hkept, ?_⟩
    simp [after, getOrCompile, hkept]
  refused error hanswer := by
    rcases getOrCompile_cases situation.cache situation.settings situation.now dialect source with
      ⟨_, _, hrequest⟩ | ⟨_, _, _, hrequest⟩ | ⟨_, _, _, hrequest⟩
    · rw [answer, hrequest] at hanswer
      cases hanswer
    · rw [after, hrequest]
    · rw [answer, hrequest] at hanswer
      cases hanswer
  present shared hanswer := get?_after_request hanswer
  added formatter hmissing hcompile hroom := by
    obtain ⟨hanswer, hentries⟩ := request_of_compile hmissing hcompile
    rw [if_neg (Nat.not_le_of_lt hroom)] at hentries
    exact ⟨_, hanswer, rfl, hentries⟩
  alone formatter hmissing hcompile hfull := by
    obtain ⟨hanswer, hentries⟩ := request_of_compile hmissing hcompile
    rw [if_pos (Nat.le_of_eq hfull.symm)] at hentries
    exact ⟨_, hanswer, rfl, hentries⟩

/-- In every situation that a cache gets into, it is within the capacity that it was made with and
holds no key twice, and every request keeps to its rules: a formatter that is found or refused leaves
the cache as it was, and a new one joins the others or, in a full cache, takes their place. -/
theorem bounded_and_responds (capacity : Nat) (settings : Settings) (now : Binary64)
    (actions : List Action) :
    Bounded capacity ((initial capacity settings now).run actions).cache ∧
      ∀ dialect source,
        ((initial capacity settings now).run actions).Responds dialect source :=
  ⟨bounded_run capacity settings now actions, fun dialect source => responds _ dialect source⟩

end Situation

end FormatterCache

end Songbook
