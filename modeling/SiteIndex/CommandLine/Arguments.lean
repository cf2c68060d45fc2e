/-!
The arguments of the command line. Some options can stand before the command as well as after it; the
later place counts. At one place an option is given once at the most.
-/

namespace SiteIndex.CommandLine

inductive Command where
  | build
  | check (json : Bool)
  | genConfig
  deriving DecidableEq, Repr

structure Invocation where
  /-- The content root. -/
  root : String
  /-- Log less, or more. -/
  quiet : Bool
  verbose : Bool
  command : Command
  deriving DecidableEq, Repr

inductive Request where
  | run (invocation : Invocation)
  | help
  | version
  deriving DecidableEq, Repr

inductive UsageError where
  | unexpected (argument : String)
  | valueMissing (option : String)
  | repeated (option : String)
  | conflict
  | commandMissing
  deriving DecidableEq, Repr

def UsageError.message : UsageError → String
  | unexpected argument => "unexpected argument '" ++ argument ++ "' found"
  | valueMissing option => "a value is required for '" ++ option ++ "' but none was supplied"
  | repeated option => "the argument '" ++ option ++ "' cannot be used multiple times"
  | conflict => "the argument '--quiet' cannot be used with '--verbose'"
  | commandMissing => "a command is required: build, check or gen-config"

/-- The options found at one place. -/
structure Options where
  root : Option String
  quiet : Bool
  verbose : Bool
  json : Bool
  deriving DecidableEq, Repr

def Options.none : Options :=
  ⟨.none, false, false, false⟩

/-- Where an option can stand: before a command or after one. -/
inductive Level where
  | top
  | after (command : String)
  deriving DecidableEq, Repr

/-- What a single flag does. -/
inductive Effect where
  | options (options : Options)
  | help
  | version

def commandNames : List String :=
  ["build", "check", "gen-config"]

def setRoot (options : Options) (value : String) : Except UsageError Options :=
  if value.isEmpty then .error (.valueMissing "--root")
  else if options.root.isSome then .error (.repeated "--root")
  else .ok { options with root := some value }

/-- Applies a flag, by its long name. -/
def applyFlag (level : Level) (options : Options) (name : String) : Except UsageError Effect :=
  match name with
  | "quiet" =>
      if options.quiet then .error (.repeated "--quiet")
      else .ok (.options { options with quiet := true })
  | "verbose" =>
      if options.verbose then .error (.repeated "--verbose")
      else .ok (.options { options with verbose := true })
  | "json" =>
      if level ≠ .after "check" then .error (.unexpected "--json")
      else if options.json then .error (.repeated "--json")
      else .ok (.options { options with json := true })
  | "help" => .ok .help
  | "version" => if level = .top then .ok .version else .error (.unexpected "--version")
  | name => .error (.unexpected ("--" ++ name))

/-- The long name of a flag of one letter. -/
def longName? : Char → Option String
  | 'q' => some "quiet"
  | 'v' => some "verbose"
  | 'h' => some "help"
  | 'V' => some "version"
  | _ => none

/-- Applies the letters behind a single hyphen, up to the first that ends the reading. -/
def applyLetters (level : Level) (options : Options) : List Char → Except UsageError Effect
  | [] => .ok (.options options)
  | letter :: rest =>
      match longName? letter with
      | none => .error (.unexpected ("-" ++ letter.toString))
      | some name => do
          match ← applyFlag level options name with
          | .options options => applyLetters level options rest
          | effect => .ok effect

/-- Options that exclude each other must not stand at the same place. -/
def checkOptions (options : Options) : Except UsageError Options :=
  if options.quiet && options.verbose then .error .conflict else .ok options

/-- How the reading of one place ends. -/
inductive LevelEnd where
  | options (options : Options)
  | command (options : Options) (name : String) (rest : List String)
  | help
  | version

def isHyphened (argument : String) : Bool :=
  argument.toList.head? == some '-' && argument != "-"

/-- The name and the value of a long option, given without its hyphens. -/
def cutValue (argument : List Char) : String × Option String :=
  let name := String.ofList (argument.takeWhile (· != '='))
  match argument.dropWhile (· != '=') with
  | [] => (name, none)
  | _ :: value => (name, some (String.ofList value))

/-- Reads the options at one place, up to a command or the end of the arguments. -/
def readLevel (level : Level) (options : Options) : List String → Except UsageError LevelEnd
  | [] => .ok (.options options)
  | ["--"] => .ok (.options options)
  | "--" :: argument :: _ => .error (.unexpected argument)
  | argument :: rest =>
      match argument.toList with
      | '-' :: '-' :: long =>
          match cutValue long, rest with
          | ("root", some value), rest => do
              readLevel level (← setRoot options value) rest
          | ("root", none), [] => .error (.valueMissing "--root")
          | ("root", none), value :: rest =>
              if isHyphened value then .error (.valueMissing "--root")
              else do readLevel level (← setRoot options value) rest
          | (name, some _), _ => .error (.unexpected ("--" ++ name))
          | (name, none), rest => do
              match ← applyFlag level options name with
              | .options options => readLevel level options rest
              | .help => .ok .help
              | .version => .ok .version
      | '-' :: letter :: letters => do
          match ← applyLetters level options (letter :: letters) with
          | .options options => readLevel level options rest
          | .help => .ok .help
          | .version => .ok .version
      | _ =>
          if level = .top then .ok (.command options argument rest)
          else .error (.unexpected argument)

def commandOf (name : String) (options : Options) : Command :=
  if name = "build" then .build
  else if name = "check" then .check options.json
  else .genConfig

/-- Reads what stands after `help`: the name of one command, or nothing. No command has commands of
its own, so nothing may follow the name, not even an option. -/
def readTopic : List String → Except UsageError Request
  | [] => .ok .help
  | topic :: rest =>
      if topic ∉ "help" :: commandNames then .error (.unexpected topic)
      else match rest with
        | [] => .ok .help
        | argument :: _ => .error (.unexpected argument)

/-- What the arguments ask for, the program's own name not among them. -/
def readArguments (arguments : List String) : Except UsageError Request := do
  match ← readLevel .top .none arguments with
  | .help => return .help
  | .version => return .version
  | .options _ => throw .commandMissing
  | .command outer name rest =>
      if name = "help" then readTopic rest
      else if name ∉ commandNames then throw (.unexpected name)
      else
        match ← readLevel (.after name) .none rest with
        | .help => return .help
        | .version => return .version
        | .command _ argument _ => throw (.unexpected argument)
        | .options inner =>
            let inner ← checkOptions inner
            let outer ← checkOptions outer
            return .run {
              root := (inner.root <|> outer.root).getD "."
              quiet := outer.quiet || inner.quiet
              verbose := outer.verbose || inner.verbose
              command := commandOf name inner }

end SiteIndex.CommandLine
