import Songbook.Proofs.Pattern.Evaluation

/-!
# What a compiled formatter is made of

A formatter that compiles holds the program of the tree its pattern reads as, so what it shows is what
the tree means. Compiling can fail in two ways only: the pattern does not read, or the sample record
does not give a path that is absolute. The second one exists for paths alone.
-/

namespace Songbook.Formatter

variable {source : String} {dialect : Dialect} {settings : Path.Settings} {now : Binary64}
  {formatter : Formatter}

variable [RegexLibrary]

theorem tryFormat_of_not_path (hdialect : formatter.dialect ≠ .path) (record : Record) :
    formatter.tryFormat record = .ok (formatter.format record) := by
  simp [tryFormat, bne_iff_ne.mpr hdialect]

/-- A pattern compiles when it reads as a tree and the formatter of the tree passes the trial on the
sample record. -/
theorem compile_eq_ok_iff : compile source dialect settings now = .ok formatter ↔
    ∃ nodes, Pattern.parse (dialect.preprocess source) = .ok nodes ∧
      formatter = ofTree source dialect settings now nodes ∧
      ∃ output, formatter.tryFormat .sample = .ok output := by
  constructor
  · intro hcompile
    unfold compile at hcompile
    cases hparse : Pattern.parse (dialect.preprocess source) with
    | error position => simp [hparse] at hcompile
    | ok nodes =>
        simp only [hparse] at hcompile
        split at hcompile
        next => cases hcompile
        next output houtput =>
          cases hcompile
          exact ⟨nodes, rfl, rfl, output, houtput⟩
  · rintro ⟨nodes, hparse, rfl, output, houtput⟩
    simp [compile, hparse, houtput]

/-- Only paths are tried out: in any other dialect every pattern that reads compiles. -/
theorem compile_of_parse (settings : Path.Settings) (now : Binary64)
    (hdialect : dialect ≠ .path) {nodes : List Pattern.Node}
    (hparse : Pattern.parse (dialect.preprocess source) = .ok nodes) :
    compile source dialect settings now = .ok (ofTree source dialect settings now nodes) :=
  compile_eq_ok_iff.mpr ⟨nodes, hparse, rfl, _, tryFormat_of_not_path hdialect _⟩

/-- A path pattern that reads compiles when its trial gives a path. -/
theorem compile_of_trial {nodes : List Pattern.Node}
    (hparse : Pattern.parse (dialect.preprocess source) = .ok nodes)
    (htrial : ((ofTree source dialect settings now nodes).tryFormat .sample).toOption.isSome) :
    compile source dialect settings now = .ok (ofTree source dialect settings now nodes) := by
  cases houtput : (ofTree source dialect settings now nodes).tryFormat .sample with
  | error error => simp [houtput, Except.toOption] at htrial
  | ok output => exact compile_eq_ok_iff.mpr ⟨nodes, hparse, rfl, output, houtput⟩

variable (source dialect settings now) (nodes : List Pattern.Node) (record : Record)

theorem rawOutput_ofTree : (ofTree source dialect settings now nodes).rawOutput record =
    Pattern.textOfAll dialect (Pattern.queryOf? now) record nodes := by
  rw [← Pattern.join_evaluateAll, ← Pattern.pieces_compile]
  rfl

theorem pieces_ofTree {V : Type} (view : Pattern.View V) :
    (ofTree source dialect settings now nodes).program.pieces view =
      Pattern.evaluateAll view (Pattern.queryOf? now) nodes :=
  Pattern.pieces_compile view (Pattern.queryOf? now) nodes

end Songbook.Formatter
