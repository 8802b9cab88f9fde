import Songbook.RegexEngine.NamedClass
import Songbook.RegexEngine.Size

/-!
# Reading regular expressions

A regular expression is read from left to right with a stack of open groups; a bracketed class keeps
a stack of open classes of its own. Every round of either loop reads at least one character, so the
number of characters bounds the rounds.

Look-around and back-references are not part of the language. An expression nested more than 250 deep
or too large is refused like one that is malformed. No reason is given for a refusal.
-/

namespace Songbook.RegexEngine

open Expression

/-- The flags in force at a place. Without `unicode`, classes hold ASCII characters only. The flag
`U`, which swaps greedy and lazy repetitions, changes no set of matched texts and is not kept. -/
structure Flags where
  ignoreCase : Bool := false
  multiLine : Bool := false
  dotMatchesNewline : Bool := false
  crlf : Bool := false
  unicode : Bool := true
  verbose : Bool := false

/-- A piece of an expression and the depth of its tree. -/
structure Part where
  expression : Expression
  depth : Nat := 0

/-- A piece of a class and the depth of its tree. -/
structure SetPart where
  accepts : CharSet
  depth : Nat := 0

/-! ## Blanks -/

/-- Skip blanks and comments; a comment runs from `#` to the end of its line. -/
def skipBlanks (inComment : Bool) : List Char → List Char
  | [] => []
  | c :: rest =>
    if inComment then skipBlanks (c != '\n') rest
    else if Unicode.Property.isWhiteSpace c then skipBlanks false rest
    else if c = '#' then skipBlanks true rest
    else c :: rest

theorem length_skipBlanks_le (inComment : Bool) (text : List Char) :
    (skipBlanks inComment text).length ≤ text.length := by
  induction text generalizing inComment with
  | nil => simp [skipBlanks]
  | cons c rest ih =>
    unfold skipBlanks
    split
    · exact Nat.le_succ_of_le (ih _)
    · split
      · exact Nat.le_succ_of_le (ih _)
      · split
        · exact Nat.le_succ_of_le (ih _)
        · exact Nat.le_refl _

/-- Skip what the verbose flag makes meaningless. -/
def Flags.skip (flags : Flags) (text : List Char) : List Char :=
  if flags.verbose then skipBlanks false text else text

theorem Flags.length_skip_le (flags : Flags) (text : List Char) :
    (flags.skip text).length ≤ text.length := by
  unfold Flags.skip
  split
  · exact length_skipBlanks_le false text
  · exact Nat.le_refl _

/-- The longest run of characters of a set, with meaningless blanks left out, and the rest. -/
def collect (flags : Flags) (keep : CharSet) : List Char → List Char × List Char
  | [] => ([], [])
  | c :: rest =>
    if keep c then
      let (run, after) := collect flags keep (flags.skip rest)
      (c :: run, after)
    else ([], c :: rest)
termination_by text => text.length
decreasing_by
  have := flags.length_skip_le rest
  simp only [List.length_cons]
  omega

/-! ## Sets under flags -/

/-- The characters that count as equal to the given one. -/
def Flags.variants (flags : Flags) (c : Char) : List Char :=
  if !flags.ignoreCase then [c]
  else if flags.unicode then Unicode.caseVariants c
  else [c, c.toLower, c.toUpper]

/-- Close a set under the case of its characters, if case is ignored. -/
def Flags.foldSet (flags : Flags) (accepts : CharSet) : CharSet :=
  if flags.ignoreCase then fun c => (flags.variants c).any accepts else accepts

/-- A set as it stands in an expression: closed under case, then negated if asked. The negation of an
ASCII class would match parts of characters and is refused. -/
def Flags.finishSet? (flags : Flags) (negated : Bool) (accepts : CharSet) : Option CharSet :=
  let accepts := flags.foldSet accepts
  if !negated then some accepts
  else if flags.unicode then some fun c => !accepts c
  else none

/-- The expression for one character. -/
def Flags.literal (flags : Flags) (c : Char) : Part where
  expression := oneOf (flags.variants c)

/-! ## Escapes -/

/-- What a backslash and the characters after it stand for. -/
inductive Escape where
  | literal (c : Char)
  | set (accepts : CharSet)
  | place (condition : Assertion)

/-- Whether a character means something in an expression when it stands alone. -/
def isMeta (c : Char) : Bool :=
  ['\\', '.', '+', '*', '?', '(', ')', '|', '[', ']', '\x7b', '\x7d', '^', '$', '#', '&', '-',
    '~'].contains c

/-- Whether a backslash may stand before a character just to make it literal. -/
def isEscapable (c : Char) : Bool :=
  isMeta c || (c.toNat < 128 && !c.isAlphanum && c != '<' && c != '>')

/-- Whether a character is a hexadecimal digit. -/
def isHexDigit (c : Char) : Bool :=
  c.isDigit || ('a' ≤ c && c ≤ 'f') || ('A' ≤ c && c ≤ 'F')

/-- The character of a code point. -/
def charOfPoint? (point : Nat) : Option Char :=
  if point.isValidChar then some (Char.ofNat point) else none

/-- A fixed number of hexadecimal digits, and the rest. -/
def hexDigits? (flags : Flags) : (count : Nat) → List Char → Option (List Char × List Char)
  | 0, text => some ([], text)
  | _ + 1, [] => none
  | count + 1, c :: rest =>
    if isHexDigit c then
      (hexDigits? flags count (flags.skip rest)).map fun (digits, after) => (c :: digits, after)
    else none

/-- The character of `\x`, `\u` or `\U`, with the text after that letter. A two-digit code beyond
ASCII is a byte, which only the Unicode flag turns into a character. -/
def hexEscape? (flags : Flags) (kind : Char) (text : List Char) : Option (Char × List Char) :=
  match flags.skip text with
  | [] => none
  | '\x7b' :: rest =>
    let (digits, after) := collect flags (· != '\x7d') (flags.skip rest)
    if after.isEmpty || digits.isEmpty || !digits.all isHexDigit then none
    else (charOfPoint? (Unicode.hexValue digits)).map (·, flags.skip (after.drop 1))
  | rest =>
    let count := if kind = 'x' then 2 else if kind = 'u' then 4 else 8
    match hexDigits? flags count rest with
    | none => none
    | some (digits, after) =>
      let point := Unicode.hexValue digits
      if !flags.unicode && kind = 'x' && 128 ≤ point then none
      else (charOfPoint? point).map (·, after)

/-- The set of `\p` or `\P`, with the text after that letter. -/
def unicodeClass? (flags : Flags) (negated : Bool) (text : List Char) :
    Option (CharSet × List Char) :=
  if !flags.unicode then none
  else
    match flags.skip text with
    | [] => none
    | '\x7b' :: rest =>
      let (name, after) := collect flags (· != '\x7d') (flags.skip rest)
      if after.isEmpty then none
      else
        match bracedClass? name with
        | none => none
        | some accepts => (flags.finishSet? negated accepts).map (·, after.drop 1)
    | c :: rest =>
      if c = '\\' then none
      else
        match loneClass? [c] with
        | none => none
        | some accepts => (flags.finishSet? negated accepts).map (·, flags.skip rest)

/-- A boundary named in braces after `\b`. The outer option tells a malformed name from an accepted
one, the inner one tells whether the braces name a boundary at all: if they do not start with a
letter or a hyphen, they are a repetition. -/
def namedBoundary? (flags : Flags) (isWord : CharSet) (text : List Char) :
    Option (Option (Assertion × List Char)) :=
  let isNameChar : CharSet := fun c => c.isAlpha || c = '-'
  match text with
  | '\x7b' :: rest =>
    match flags.skip rest with
    | [] => none
    | c :: inner =>
      if !isNameChar c then some none
      else
        let (name, after) := collect flags isNameChar (c :: inner)
        if after.head? != some '\x7d' then none
        else
          let after := after.drop 1
          match String.ofList name with
          | "start" => some (some (.wordStart isWord, after))
          | "end" => some (some (.wordEnd isWord, after))
          | "start-half" => some (some (.wordStartHalf isWord, after))
          | "end-half" => some (some (.wordEndHalf isWord, after))
          | _ => none
  | _ => some none

/-- What an escape stands for, with the text after its backslash, and the rest. -/
def escape? (flags : Flags) : List Char → Option (Escape × List Char)
  | [] => none
  | c :: rest =>
    let isWord := wordChars flags.unicode
    let named (negated : Bool) (accepts : CharSet) : Option (Escape × List Char) :=
      if !negated then some (.set accepts, rest)
      else if flags.unicode then some (.set fun c => !accepts c, rest)
      else none
    let place (condition : Assertion) : Option (Escape × List Char) :=
      some (.place condition, rest)
    let literal (c : Char) : Option (Escape × List Char) := some (.literal c, rest)
    match c with
    | 'x' => (hexEscape? flags c rest).map fun (c, after) => (.literal c, after)
    | 'u' => (hexEscape? flags c rest).map fun (c, after) => (.literal c, after)
    | 'U' => (hexEscape? flags c rest).map fun (c, after) => (.literal c, after)
    | 'p' => (unicodeClass? flags false rest).map fun (set, after) => (.set set, after)
    | 'P' => (unicodeClass? flags true rest).map fun (set, after) => (.set set, after)
    | 'd' => named false (digits flags.unicode)
    | 'D' => named true (digits flags.unicode)
    | 's' => named false (blanks flags.unicode)
    | 'S' => named true (blanks flags.unicode)
    | 'w' => named false isWord
    | 'W' => named true isWord
    | 'a' => literal '\x07'
    | 'f' => literal '\x0c'
    | 't' => literal '\t'
    | 'n' => literal '\n'
    | 'r' => literal '\r'
    | 'v' => literal '\x0b'
    | 'A' => place .textStart
    | 'z' => place .textEnd
    | 'B' => place (.notWordBoundary isWord)
    | '<' => place (.wordStart isWord)
    | '>' => place (.wordEnd isWord)
    | 'b' =>
      match namedBoundary? flags isWord rest with
      | none => none
      | some none => place (.wordBoundary isWord)
      | some (some (condition, after)) => some (.place condition, after)
    | c => if isEscapable c then literal c else none

/-! ## Bracketed classes -/

/-- The operators between the parts of a class. -/
inductive SetOperator where
  | intersection
  | difference
  | symmetricDifference

/-- The set an operator makes. -/
def SetOperator.apply (operator : SetOperator) (left right : CharSet) : CharSet := fun c =>
  match operator with
  | intersection => left c && right c
  | difference => left c && !right c
  | symmetricDifference => left c != right c

/-- A class that is being read: its parts since the last operator, latest first, and what stands
before that operator. -/
structure OpenClass where
  negated : Bool
  items : List SetPart := []
  pending : Option (SetPart × SetOperator) := none

/-- The union of the parts since the last operator. -/
def unionOf (items : List SetPart) : SetPart :=
  match items with
  | [item] => item
  | [] => { accepts := fun _ => false }
  | _ =>
    { accepts := fun c => items.any fun item => item.accepts c
      depth := 1 + (items.map (·.depth)).foldl max 0 }

/-- Everything read of a class so far as one set. -/
def OpenClass.value (flags : Flags) (current : OpenClass) : SetPart :=
  let right := unionOf current.items
  match current.pending with
  | none => right
  | some (left, operator) =>
    { accepts := operator.apply (flags.foldSet left.accepts) (flags.foldSet right.accepts)
      depth := 1 + max left.depth right.depth }

/-- Add a part to a class. -/
def OpenClass.push (current : OpenClass) (item : SetPart) : OpenClass :=
  { current with items := item :: current.items }

/-- The hyphens a class starts with, which are literal, and the rest. -/
def leadingHyphens (flags : Flags) (current : OpenClass) : List Char → OpenClass × List Char
  | [] => (current, [])
  | c :: rest =>
    if c = '-' then leadingHyphens flags (current.push { accepts := fun x => x == '-' })
      (flags.skip rest)
    else (current, c :: rest)
termination_by text => text.length
decreasing_by
  have := flags.length_skip_le rest
  simp only [List.length_cons]
  omega

/-- Open a class with the text after its bracket: an optional `^`, literal hyphens, and a `]` that is
literal if it comes first. -/
def openClass (flags : Flags) (text : List Char) : OpenClass × List Char :=
  let text := flags.skip text
  let negated := text.head? = some '^'
  let text := if negated then flags.skip (text.drop 1) else text
  let (current, text) := leadingHyphens flags { negated } text
  if current.items.isEmpty && text.head? = some ']' then
    (current.push { accepts := fun x => x == ']' }, flags.skip (text.drop 1))
  else (current, text)

/-- A named class `[:name:]` inside a class, with the text after its first bracket. If the text is no
such class, the bracket opens a nested one. -/
def posixItem? (text : List Char) : Option (Bool × CharSet × List Char) :=
  match text with
  | ':' :: rest =>
    let negated := rest.head? = some '^'
    let rest := if negated then rest.drop 1 else rest
    let name := rest.takeWhile (· != ':')
    match rest.dropWhile (· != ':') with
    | ':' :: ']' :: after =>
      (posixClass? (String.ofList name)).map fun accepts => (negated, accepts, after)
    | _ => none
  | _ => none

/-- One element of a class: an escape, or a character by itself. -/
def classElement? (flags : Flags) : List Char → Option (Escape × List Char)
  | [] => none
  | '\\' :: rest => escape? flags rest
  | c :: rest => some (.literal c, rest)

/-- One item of a class: an element, or a range of two literals. Without the Unicode flag a class
holds ASCII characters only. -/
def classItem? (flags : Flags) (text : List Char) : Option (SetPart × List Char) :=
  let permitted (c : Char) : Bool := flags.unicode || c.toNat < 128
  match classElement? flags text with
  | none => none
  | some (first, after) =>
    let after := flags.skip after
    let next := (flags.skip (after.drop 1)).head?
    if after.isEmpty then none
    else if after.head? != some '-' || next = some ']' || next = some '-' then
      match first with
      | .literal c =>
        if permitted c then some ({ accepts := fun x => x == c }, after) else none
      | .set accepts => some ({ accepts }, after)
      | .place _ => none
    else
      match first, classElement? flags (flags.skip (after.drop 1)) with
      | .literal low, some (.literal high, after) =>
        if low ≤ high && permitted low && permitted high then
          some ({ accepts := fun x => low ≤ x && x ≤ high }, after)
        else none
      | _, _ => none

/-- Read a class to its closing bracket. `outer` holds the classes around the current one. -/
def classLoop? (flags : Flags) : (rounds : Nat) → (outer : List OpenClass) → OpenClass →
    List Char → Option (SetPart × List Char)
  | 0, _, _, _ => none
  | rounds + 1, outer, current, text =>
    let operate (operator : SetOperator) (rest : List Char) :=
      classLoop? flags rounds outer
        { current with items := [], pending := some (current.value flags, operator) } rest
    match flags.skip text with
    | [] => none
    | '[' :: rest =>
      match posixItem? rest with
      | some (negated, accepts, after) =>
        match flags.finishSet? negated accepts with
        | none => none
        | some accepts => classLoop? flags rounds outer (current.push { accepts }) after
      | none =>
        let (inner, after) := openClass flags rest
        classLoop? flags rounds (current :: outer) inner after
    | ']' :: rest =>
      let value := current.value flags
      match flags.finishSet? current.negated value.accepts with
      | none => none
      | some accepts =>
        let closed : SetPart := { accepts, depth := 1 + value.depth }
        match outer with
        | [] => some (closed, rest)
        | enclosing :: outer => classLoop? flags rounds outer (enclosing.push closed) rest
    | '&' :: '&' :: rest => operate .intersection rest
    | '-' :: '-' :: rest => operate .difference rest
    | '~' :: '~' :: rest => operate .symmetricDifference rest
    | rest =>
      match classItem? flags rest with
      | none => none
      | some (item, after) => classLoop? flags rounds outer (current.push item) after

/-- Read a class, with the text after its opening bracket. -/
def bracketedClass? (flags : Flags) (text : List Char) : Option (SetPart × List Char) :=
  let (current, after) := openClass flags text
  classLoop? flags (text.length + 1) [] current after

/-! ## Groups and repetitions -/

/-- An open group: what was read of the expression around it, latest first, and the flags to return
to. A missing part is a flag setting, which cannot be repeated. -/
structure Frame where
  flags : Flags
  branches : List Part
  items : List (Option Part)

/-- What has been read of an expression. -/
structure State where
  flags : Flags := {}
  names : List (List Char) := []
  branches : List Part := []
  items : List (Option Part) := []
  outer : List Frame := []

/-- The expression of one branch. -/
def branchOf (items : List (Option Part)) : Part :=
  let parts := (items.filterMap id).reverse
  let inner := (parts.map (·.depth)).foldl max 0
  { expression := sequenceOf (parts.map (·.expression))
    depth := if items.length ≤ 1 then inner else 1 + inner }

/-- The expression of a group's branches, the last one given apart. -/
def State.value (state : State) : Part :=
  let last := branchOf state.items
  if state.branches.isEmpty then last
  else
    let parts := (last :: state.branches).reverse
    { expression := alternativeOf (parts.map (·.expression))
      depth := 1 + (parts.map (·.depth)).foldl max 0 }

/-- Add a part to the current branch. -/
def State.push (state : State) (part : Part) : State :=
  { state with items := some part :: state.items }

/-- Repeat the last part of the current branch. A part that reads nothing need not be repeated more
than once. -/
def State.repeatLast? (state : State) (least : Nat) (most : Option Nat) : Option State :=
  match state.items with
  | some part :: items =>
    let body := part.expression
    let expression :=
      if body.readsNothing then repeated body (min least 1) (some (min (most.getD 1) 1))
      else repeated body least most
    some { state with items := some { expression, depth := 1 + part.depth } :: items }
  | _ => none

/-- Start a group whose inside has the given flags. -/
def State.openGroup (state : State) (flags : Flags) : State :=
  { state with
    flags
    branches := []
    items := []
    outer := { flags := state.flags, branches := state.branches, items := state.items }
      :: state.outer }

/-- End the innermost group. -/
def State.closeGroup? (state : State) : Option State :=
  match state.outer with
  | [] => none
  | frame :: outer =>
    let value := state.value
    some { state with
      flags := frame.flags
      branches := frame.branches
      items := some { value with depth := 1 + value.depth } :: frame.items
      outer }

/-- Set one flag. -/
def Flags.set? (flags : Flags) (value : Bool) : Char → Option Flags
  | 'i' => some { flags with ignoreCase := value }
  | 'm' => some { flags with multiLine := value }
  | 's' => some { flags with dotMatchesNewline := value }
  | 'R' => some { flags with crlf := value }
  | 'u' => some { flags with unicode := value }
  | 'x' => some { flags with verbose := value }
  | 'U' => some flags
  | _ => none

/-- Apply the letters of a flag setting; those after the hyphen are cleared. Nothing may come twice,
and a hyphen must be followed by something. -/
def Flags.update? (flags : Flags) (letters : List Char) : Option Flags :=
  if letters.eraseDups.length != letters.length || letters.getLast? = some '-' then none
  else
    let raised := letters.takeWhile (· != '-')
    let cleared := (letters.dropWhile (· != '-')).drop 1
    (raised.foldlM (fun flags c => Flags.set? flags true c) flags).bind
      (cleared.foldlM fun flags c => Flags.set? flags false c)

/-- Whether a character may stand in the name of a group. -/
def isGroupNameChar (first : Bool) (c : Char) : Bool :=
  if first then c = '_' || Unicode.Property.isAlphabetic c
  else ['_', '.', '[', ']'].contains c || Unicode.Property.isAlphanumeric c

/-- Read what follows an opening parenthesis up to the inside of the group, or up to the end of a
flag setting. -/
def openParenthesis? (state : State) (text : List Char) : Option (State × List Char) :=
  let named (text : List Char) : Option (State × List Char) :=
    let name := text.takeWhile (· != '>')
    let valid := match name with
      | [] => false
      | first :: more => isGroupNameChar true first && more.all (isGroupNameChar false)
    if (text.dropWhile (· != '>')).isEmpty || !valid || state.names.contains name then none
    else
      some ({ state.openGroup state.flags with names := name :: state.names },
        (text.dropWhile (· != '>')).drop 1)
  match state.flags.skip text with
  | '?' :: '=' :: _ => none
  | '?' :: '!' :: _ => none
  | '?' :: '<' :: '=' :: _ => none
  | '?' :: '<' :: '!' :: _ => none
  | '?' :: 'P' :: '<' :: rest => named rest
  | '?' :: '<' :: rest => named rest
  | '?' :: rest =>
    let letters := rest.takeWhile fun c => c != ':' && c != ')'
    match rest.dropWhile fun c => c != ':' && c != ')' with
    | [] => none
    | close :: after =>
      match state.flags.update? letters with
      | none => none
      | some flags =>
        if close = ':' then some (state.openGroup flags, after)
        else if letters.isEmpty then none
        else some ({ state with flags, items := none :: state.items }, after)
  | rest => some (state.openGroup state.flags, rest)

/-- A count of a repetition, with blanks around it, and the rest. -/
def repetitionCount? (flags : Flags) (text : List Char) : Option Nat × List Char :=
  let text := text.dropWhile Unicode.Property.isWhiteSpace
  let (digits, rest) := collect flags Char.isDigit text
  let (_, rest) := collect flags Unicode.Property.isWhiteSpace rest
  let count := digits.foldl (fun n digit => 10 * n + (digit.toNat - '0'.toNat)) 0
  (if digits.isEmpty || Nat.pow 2 32 ≤ count then none else some count, rest)

/-- Read a counted repetition, with the text after its opening brace. -/
def countedRepetition? (state : State) (text : List Char) : Option (State × List Char) :=
  let flags := state.flags
  let finish (least : Nat) (most : Option Nat) (text : List Char) : Option (State × List Char) :=
    match text with
    | '\x7d' :: rest =>
      let rest := flags.skip rest
      let rest := if rest.head? = some '?' then rest.drop 1 else rest
      if most.any (· < least) then none
      else (state.repeatLast? least most).map (·, rest)
    | _ => none
  match repetitionCount? flags (flags.skip text) with
  | (none, _) => none
  | (some least, ',' :: rest) =>
    match flags.skip rest with
    | '\x7d' :: rest => finish least none ('\x7d' :: rest)
    | rest =>
      match repetitionCount? flags rest with
      | (none, _) => none
      | (some most, rest) => finish least (some most) rest
  | (some least, rest) => finish least (some least) rest

/-- Read one construct that starts with the character `c`. -/
def step? (state : State) (c : Char) (rest : List Char) : Option (State × List Char) :=
  let flags := state.flags
  let repetition (least : Nat) (most : Option Nat) :=
    let rest := if rest.head? = some '?' then rest.drop 1 else rest
    (state.repeatLast? least most).map (·, rest)
  let place (condition : Assertion) :=
    some (state.push { expression := assertion condition }, rest)
  match c with
  | '(' => openParenthesis? state rest
  | ')' => state.closeGroup?.map (·, rest)
  | '|' => some ({ state with branches := branchOf state.items :: state.branches, items := [] }, rest)
  | '[' =>
    (bracketedClass? flags rest).map fun (set, after) =>
      (state.push { expression := chars set.accepts, depth := set.depth }, after)
  | '?' => repetition 0 (some 1)
  | '*' => repetition 0 none
  | '+' => repetition 1 none
  | '\x7b' => countedRepetition? state rest
  | '.' =>
    if !flags.unicode then none
    else
      let accepts : CharSet := fun c =>
        flags.dotMatchesNewline || (c != '\n' && !(flags.crlf && c = '\r'))
      some (state.push { expression := chars accepts }, rest)
  | '^' => place
      (if !flags.multiLine then .textStart else if flags.crlf then .crlfLineStart else .lineStart)
  | '$' => place
      (if !flags.multiLine then .textEnd else if flags.crlf then .crlfLineEnd else .lineEnd)
  | '\\' =>
    (escape? flags rest).map fun (escape, after) =>
      match escape with
      | .literal c => (state.push (flags.literal c), after)
      | .set accepts => (state.push { expression := chars accepts }, after)
      | .place condition => (state.push { expression := assertion condition }, after)
  | c => some (state.push (flags.literal c), rest)

/-- Read constructs to the end of the text. -/
def loop? : (rounds : Nat) → State → List Char → Option State
  | 0, _, _ => none
  | rounds + 1, state, text =>
    match state.flags.skip text with
    | [] => some state
    | c :: rest => (step? state c rest).bind fun (state, after) => loop? rounds state after

/-- Read a regular expression, with flags to start from. -/
def parseWith? (flags : Flags) (text : List Char) : Option Expression :=
  (loop? (text.length + 1) { flags } text).bind fun state =>
    let value := state.value
    if state.outer.isEmpty && value.depth ≤ 250 then some value.expression else none

/-- The source that matches exactly the given text. -/
def escapeText (text : List Char) : List Char :=
  text.flatMap fun c => if isMeta c then ['\\', c] else [c]

end Songbook.RegexEngine
