import Songbook.Pattern.Token

/-!
# Presentation tags in brackets

Bracket patterns write presentation tags as `[b]` or `[span color="red"]` and show them as literal
`<b>` or `<span color="red">`. `toPattern` makes them escaped literal text, so that the pattern
reader sees no delimiter in them. `\[` is a literal bracket, and a bracket that starts no presentation
tag stays as it is.
-/

namespace Songbook.Brackets

/-- The names of presentation tags. -/
def tagNames : List (List Char) :=
  ["b", "i", "u", "s", "tt", "sub", "sup", "small", "big", "span"].map String.toList

/-- Whether the text between brackets is a presentation tag: an optional slash, a name, and nothing
or a blank after it. -/
def isPresentation (inner : List Char) : Bool :=
  let inner := if inner.head? = some '/' then inner.drop 1 else inner
  tagNames.contains (inner.takeWhile fun c => !Text.isBlank c)

/-- The text of a presentation tag and what follows it, with the text after its opening bracket. -/
def presentation? (text : List Char) : Option (List Char × List Char) :=
  match text.dropWhile (· != ']') with
  | [] => none
  | _ :: after =>
    let inner := text.takeWhile (· != ']')
    if isPresentation inner then some (inner, after) else none

theorem length_of_presentation? {text inner after : List Char}
    (hpresentation : presentation? text = some (inner, after)) : after.length < text.length := by
  unfold presentation? at hpresentation
  split at hpresentation
  next => simp at hpresentation
  next hrest =>
    dsimp only at hpresentation
    split at hpresentation
    · have hlength := (List.dropWhile_sublist (l := text) (p := (· != ']'))).length_le
      rw [hrest] at hlength
      simp only [Option.some.injEq, Prod.mk.injEq] at hpresentation
      rw [← hpresentation.2]
      exact Nat.lt_of_succ_le hlength
    · simp at hpresentation

/-- A bracket pattern as a pattern without presentation tags. -/
def toPattern : List Char → List Char
  | [] => []
  | '\\' :: '[' :: rest => '[' :: toPattern rest
  | '\\' :: c :: rest => '\\' :: c :: toPattern rest
  | '[' :: rest =>
    match _hpresentation : presentation? rest with
    | some (inner, after) =>
      Pattern.escape ('<' :: (inner ++ ['>'])) ++ toPattern after
    | none => '[' :: toPattern rest
  | c :: rest => c :: toPattern rest
termination_by text => text.length
decreasing_by
  all_goals simp only [List.length_cons]
  all_goals first
    | omega
    | exact Nat.lt_succ_of_lt (length_of_presentation? ‹_›)

end Songbook.Brackets
