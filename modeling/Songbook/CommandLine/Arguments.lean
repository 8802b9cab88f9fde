import Songbook.CommandLine.Request

/-!
# Arguments

```text
[--log-level LEVEL] [--cache-capacity COUNT] COMMAND
  format PATTERN SONGS [--dialect DIALECT]
  combinations PATTERN SONGS [--dialect DIALECT]
  filter QUERY SONGS [--pattern PATTERN]
  tags PATTERN
```

An option takes its value after `=` or as the next argument, which must not look like an option. The
first two options may also follow the command. Each may be given once before the command and once
after it; the later one counts. After `--` everything is an operand. Arguments are read from left to
right, and asking for help or for the version ends the reading.
-/

namespace Songbook.CommandLine

/-- The options that take a value. -/
inductive OptionName where
  | logLevel
  | cacheCapacity
  | dialect
  | pattern
  deriving DecidableEq, Repr

/-- An option as it is written. -/
def OptionName.text : OptionName → String
  | logLevel => "--log-level"
  | cacheCapacity => "--cache-capacity"
  | dialect => "--dialect"
  | pattern => "--pattern"

/-- The values of the options given so far. -/
structure Options where
  logLevel : Option LogLevel := none
  cacheCapacity : Option Nat := none
  dialect : Option Dialect := none
  pattern : Option String := none
  deriving DecidableEq, Repr

/-- Set an option that was not set before, if the value can be read. -/
def Options.set? (options : Options) (name : OptionName) (value : String) : Option Options :=
  match name with
  | .logLevel =>
    if options.logLevel.isSome then none
    else (LogLevel.ofName? value).map fun level => { options with logLevel := some level }
  | .cacheCapacity =>
    if options.cacheCapacity.isSome then none
    else (Integer.readCount? value.toList).map fun count =>
      { options with cacheCapacity := some count }
  | .dialect =>
    if options.dialect.isSome then none
    else (Dialect.ofName? value).map fun dialect => { options with dialect := some dialect }
  | .pattern =>
    if options.pattern.isSome then none else some { options with pattern := some value }

/-- The kinds of commands. -/
inductive CommandName where
  | format
  | combinations
  | filter
  | tags
  deriving DecidableEq, Repr

namespace CommandName

/-- The command of a name. -/
def ofText? : String → Option CommandName
  | "format" => some format
  | "combinations" => some combinations
  | "filter" => some filter
  | "tags" => some tags
  | _ => none

/-- The number of operands a command takes. -/
def arity : CommandName → Nat
  | tags => 1
  | _ => 2

/-- Whether a command takes an operand after those it has, latest first. The second operand is a path,
which is not empty. -/
def takes (name : CommandName) (operands : List String) (operand : String) : Bool :=
  operands.length < name.arity && (operands.isEmpty || operand != "")

/-- The options a command takes besides those of every command. -/
def ownOptions : CommandName → List OptionName
  | format => [.dialect]
  | combinations => [.dialect]
  | filter => [.pattern]
  | tags => []

/-- The command with its operands, if there are enough of them. -/
def command? (name : CommandName) (options : Options) : List String → Option Command
  | [pattern] => if name = tags then some (.tags pattern) else none
  | [first, songs] =>
    let dialect := options.dialect.getD .plain
    match name with
    | format => some (.format first songs dialect)
    | combinations => some (.combinations first songs dialect)
    | filter => some (.filter first songs (options.pattern.getD Command.defaultFilterPattern))
    | tags => none
  | _ => none

end CommandName

namespace Arguments

/-- The options of every command. -/
def globalOptions : List OptionName :=
  [.logLevel, .cacheCapacity]

/-- What one argument is: an option, with its value if that is attached, another text with a hyphen in
front, or an operand. -/
inductive Shape where
  | option (name : OptionName) (value : Option String)
  | help
  | version
  | unknown
  | operand
  deriving DecidableEq, Repr

/-- Whether an argument looks like an option. A single hyphen does not. -/
def looksLikeOption (argument : String) : Bool :=
  argument.toList.head? = some '-' && argument != "-"

/-- The shape of an argument, where the given options are known. -/
def shapeOf (known : List OptionName) (argument : String) : Shape :=
  if !looksLikeOption argument then .operand
  else if argument = "--help" then .help
  else if argument = "--version" then .version
  else
    match argument.toList with
    | '-' :: 'h' :: _ => .help
    | '-' :: 'V' :: _ => .version
    | characters =>
      let name := String.ofList (characters.takeWhile (· != '='))
      let value := match characters.dropWhile (· != '=') with
        | [] => none
        | _ :: value => some (String.ofList value)
      match known.find? fun option => option.text = name with
      | some option => .option option value
      | none => .unknown

/-- The value of an option and the arguments after it. -/
def optionValue? (attached : Option String) (rest : List String) : Option (String × List String) :=
  match attached, rest with
  | some value, rest => some (value, rest)
  | none, value :: rest => if looksLikeOption value then none else some (value, rest)
  | none, [] => none

/-- Add an operand of a command to those it has, latest first. -/
def addOperand (name : CommandName) (operands : List String) (operand : String) :
    Except Stop (List String) :=
  if name.takes operands operand then .ok (operand :: operands) else .error .usage

/-- Read the arguments after a command, latest operands first; each round reads one. -/
def readOperands (name : CommandName) (options : Options) (operands : List String) :
    (rounds : Nat) → List String → Except Stop (Options × List String)
  | 0, _ => .ok (options, operands.reverse)
  | _ + 1, [] => .ok (options, operands.reverse)
  | rounds + 1, argument :: rest =>
    if argument = "--" then
      (rest.foldlM (addOperand name) operands).map fun operands => (options, operands.reverse)
    else
      match shapeOf (globalOptions ++ name.ownOptions) argument with
      | .help => .error .help
      | .version => .error .usage
      | .unknown => .error .usage
      | .operand =>
        match addOperand name operands argument with
        | .error stop => .error stop
        | .ok operands => readOperands name options operands rounds rest
      | .option option attached =>
        match optionValue? attached rest with
        | none => .error .usage
        | some (value, rest) =>
          match options.set? option value with
          | none => .error .usage
          | some options => readOperands name options operands rounds rest

/-- How the word `help` in place of a command ends the reading. It may name one command. -/
def helpStop : List String → Stop
  | [] => .help
  | [name] => if name = "help" || (CommandName.ofText? name).isSome then .help else .usage
  | _ => .usage

/-- Read the arguments up to the command, and then those of the command; each round reads one. -/
def readGlobal (options : Options) : (rounds : Nat) → List String → Except Stop Request
  | 0, _ => .error .usage
  | _ + 1, [] => .error .usage
  | rounds + 1, argument :: rest =>
    match shapeOf globalOptions argument with
    | .help => .error .help
    | .version => .error .version
    | .unknown => .error .usage
    | .operand =>
      if argument = "help" then .error (helpStop rest)
      else
        match CommandName.ofText? argument with
        | none => .error .usage
        | some name =>
          match readOperands name {} [] (rest.length + 1) rest with
          | .error stop => .error stop
          | .ok (own, operands) =>
            match name.command? own operands with
            | none => .error .usage
            | some command =>
              .ok {
                logLevel := own.logLevel <|> options.logLevel
                cacheCapacity := own.cacheCapacity <|> options.cacheCapacity
                command }
    | .option option attached =>
      match optionValue? attached rest with
      | none => .error .usage
      | some (value, rest) =>
        match options.set? option value with
        | none => .error .usage
        | some options => readGlobal options rounds rest

/-- Read the arguments of a run. -/
def read (arguments : List String) : Except Stop Request :=
  readGlobal {} (arguments.length + 1) arguments

end Arguments

end Songbook.CommandLine
