import SchemaLang.Build.Steps

/-!
# Invocations

What the arguments of a command line ask for. They are read one by one: a word is the command or an
operand of it, an option takes its value from the same argument or from the next one, and behind
`--` everything is an operand. Arguments that ask for nothing sensible are refused as a whole.
-/

namespace SchemaLang

/-- The names of the commands. -/
inductive CommandName where
  | build
  | check
  | document
  deriving DecidableEq, Repr

namespace CommandName

/-- The word for the command. -/
def text : CommandName → String
  | build => "build"
  | check => "check"
  | document => "ir"

/-- The command of that name. -/
def ofText? (s : String) : Option CommandName :=
  [build, check, document].find? (·.text == s)

end CommandName

/-- The options, each of which has a value. -/
inductive CommandOption where
  /-- The path of the configuration. -/
  | config
  /-- Where a build writes the document of the schema. -/
  | document
  /-- Where a document is written. -/
  | output
  deriving DecidableEq, Repr

namespace CommandOption

/-- The word for the option. -/
def text : CommandOption → String
  | config => "config"
  | document => "ir"
  | output => "output"

/-- The letter for the option. -/
def letter? : CommandOption → Option Char
  | output => some 'o'
  | config | document => none

/-- The options that can stand behind a command, or before it. -/
def allowed : Option CommandName → List CommandOption
  | some .build => [config, document]
  | some .document => [config, output]
  | some .check | none => [config]

/-- The option out of a list that an argument holds, and its value if that is in the argument too.
    -/
def ofArgument? (options : List CommandOption) (argument : String) :
    Option (CommandOption × Option String) :=
  match argument.toList with
  | '-' :: '-' :: body =>
    match Text.cutAt? '=' body with
    | some (name, value) => (named name).map (·, some (String.ofList value))
    | none => (named body).map (·, none)
  | '-' :: letter :: value =>
    (options.find? (·.letter? == some letter)).map (·, attached? value)
  | _ => none
where
  /-- The option of that name. -/
  named (name : List Char) : Option CommandOption := options.find? (·.text == String.ofList name)
  /-- The value behind a letter; a `=` between them does not count. -/
  attached? : List Char → Option String
    | [] => none
    | '=' :: value => some (String.ofList value)
    | value => some (String.ofList value)

end CommandOption

/-- What a command line asks for. -/
inductive Command where
  | build (source : String) (paths : BuildPaths)
  | check (source : String)
  | document (source : String) (output : Option String)
  deriving DecidableEq, Repr

/-- A command with the configuration that it is given. -/
structure Invocation where
  command : Command
  config : Option String := none
  deriving DecidableEq, Repr

/-- What has been read of the arguments of a command line. -/
structure ArgumentReading where
  command : Option CommandName := none
  /-- The options before the command. -/
  outer : List (CommandOption × String) := []
  /-- The options behind the command. -/
  inner : List (CommandOption × String) := []
  operands : List String := []
  /-- The option whose value is the next argument. -/
  awaiting : Option CommandOption := none
  /-- Everything that follows is an operand. -/
  operandsOnly : Bool := false
  deriving DecidableEq, Repr

namespace ArgumentReading

/-- The argument can be an operand or a value of its own: it starts with no dash, or is nothing
    else. -/
def isPlain (argument : String) : Bool :=
  argument == "-" || argument.toList.head? != some '-'

/-- Takes an operand, which may not be empty. -/
def addOperand (r : ArgumentReading) (operand : String) : Option ArgumentReading :=
  if operand = "" then none else some { r with operands := r.operands ++ [operand] }

/-- Gives an option its value, which may not be empty. An option has one value before the command
    and one behind it. -/
def addOption (r : ArgumentReading) (o : CommandOption) (value : String) :
    Option ArgumentReading :=
  let options := if r.command.isSome then r.inner else r.outer
  if value = "" ∨ (options.lookup o).isSome then none
  else if r.command.isSome then some { r with inner := r.inner ++ [(o, value)], awaiting := none }
  else some { r with outer := r.outer ++ [(o, value)], awaiting := none }

/-- Reads one more argument. -/
def step (r : ArgumentReading) (argument : String) : Option ArgumentReading :=
  if r.operandsOnly then r.addOperand argument
  else
    match r.awaiting with
    | some o => if isPlain argument then r.addOption o argument else none
    | none =>
      -- Before the command there are no operands that the dashes could set apart.
      if argument = "--" then
        if r.command.isSome then some { r with operandsOnly := true } else none
      else if isPlain argument then
        if r.command.isSome then r.addOperand argument
        else (CommandName.ofText? argument).map fun name => { r with command := name }
      else
        match CommandOption.ofArgument? (CommandOption.allowed r.command) argument with
        | some (o, some value) => r.addOption o value
        | some (o, none) => some { r with awaiting := o }
        | none => none

/-- The command that has been read, if nothing is missing and nothing is too much. -/
def command? (r : ArgumentReading) : Option Command :=
  match r.awaiting, r.command, r.operands with
  | none, some .build, [source, models, routes, templates] =>
    some (.build source
      { models, routes, templates, document := r.inner.lookup .document })
  | none, some .check, [source] => some (.check source)
  | none, some .document, [source] => some (.document source (r.inner.lookup .output))
  | _, _, _ => none

end ArgumentReading

/-- What the arguments of a command line ask for. -/
def Invocation.ofArguments? (arguments : List String) : Option Invocation := do
  let r ← arguments.foldlM ArgumentReading.step {}
  some { command := ← r.command?
         config := (r.inner.lookup .config).or (r.outer.lookup .config) }

end SchemaLang
