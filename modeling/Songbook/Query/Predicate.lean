import Songbook.Query.Comparison
import Songbook.Query.TagMatch

/-!
# Predicates

A predicate is a question about a record: tag matches and comparisons, combined by union,
intersection and negation. An empty union holds of nothing and an empty intersection of everything.
-/

namespace Songbook

/-- A question about a record. -/
inductive Predicate where
  | union (children : List Predicate)
  | intersection (children : List Predicate)
  | negation (child : Predicate)
  | tagMatch (leaf : TagMatch)
  | comparison (leaf : Comparison)

namespace Predicate

section Library

variable [RegexLibrary]

mutual

/-- Whether the predicate holds of a record. -/
def holds (record : Record) : Predicate → Bool
  | union children => anyHolds record children
  | intersection children => allHold record children
  | negation child => !holds record child
  | tagMatch leaf => leaf.holds record
  | comparison leaf => leaf.holds record

/-- Whether one of several predicates holds. -/
def anyHolds (record : Record) : List Predicate → Bool
  | [] => false
  | child :: rest => holds record child || anyHolds record rest

/-- Whether all of several predicates hold. -/
def allHold (record : Record) : List Predicate → Bool
  | [] => true
  | child :: rest => holds record child && allHold record rest

end

end Library

/-- Several predicates as one: a single one stands for itself. -/
def collapse (combine : List Predicate → Predicate) : List Predicate → Predicate
  | [only] => only
  | children => combine children

end Predicate

end Songbook
