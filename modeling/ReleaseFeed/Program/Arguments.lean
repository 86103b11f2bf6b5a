/-!
# The command line

The program has the commands `decode` and `replay`.  The switches for the settings file and for the report
level may stand before or after the name of the command, where the one after it counts; elsewhere a switch
is given once at most.  `parse` reads the arguments from left to right, and the first one that cannot be
meant, or that asks for help or for the version, ends the reading.
-/
namespace ReleaseFeed.Arguments

/-- A switch of the command line. -/
inductive Switch where
  | config | level | folder | help | version
deriving DecidableEq, Repr, Inhabited

namespace Switch

/-- The long form. -/
def word : Switch → String
  | config => "config"
  | level => "log-level"
  | folder => "dir"
  | help => "help"
  | version => "version"

/-- The short form. -/
def letter : Switch → Char
  | config => 'c'
  | level => 'l'
  | folder => 'd'
  | help => 'h'
  | version => 'V'

end Switch

/-- What the arguments at a point belong to. -/
inductive Context where
  /-- The program, before the name of a command. -/
  | program
  | decode
  | replay
deriving DecidableEq, Repr, Inhabited

/-- The switches of a context. -/
def Context.switches : Context → List Switch
  | program => [.config, .level, .help, .version]
  | decode => [.config, .level, .help]
  | replay => [.folder, .config, .level, .help]

/-- Why the arguments are not carried out. -/
inductive Stop where
  /-- They cannot be meant. -/
  | misuse
  /-- They ask for help. -/
  | help
  /-- They ask for the version. -/
  | version
deriving DecidableEq, Repr, Inhabited

/-- An argument by its form. -/
inductive Form where
  | plain (text : String)
  /-- Two hyphens, after which there are no switches. -/
  | barrier
  /-- Two hyphens and a word, with the value that follows an equals sign. -/
  | long (word : String) (value? : Option String)
  /-- One hyphen, a letter, and what stands right after it. -/
  | short (letter : Char) (rest : List Char)
deriving DecidableEq, Repr, Inhabited

/-- The form of an argument. -/
def Form.of (argument : String) : Form :=
  match argument.toList with
  | ['-', '-'] => .barrier
  | '-' :: '-' :: cs =>
    let word := cs.takeWhile (· != '=')
    .long (String.ofList word) ((cs[word.length]?).map fun _ => String.ofList (cs.drop (word.length + 1)))
  | '-' :: letter :: rest => .short letter rest
  | _ => .plain argument

/-- The switch that an argument starts with, and its value, if that is part of the argument. -/
def Form.switch? (context : Context) : Form → Option (Switch × Option String)
  | long word value? => (context.switches.find? (·.word == word)).map (·, value?)
  | short letter rest =>
    (context.switches.find? (·.letter == letter)).map fun switch =>
      (switch, match rest with
        | [] => none
        | '=' :: value => some (String.ofList value)
        | value => some (String.ofList value))
  | plain _ | barrier => none

/-- What the arguments of a context have said. -/
structure Given where
  config? : Option String := none
  level? : Option String := none
  folder? : Option String := none
  paths : List String := []
deriving DecidableEq, Repr, Inhabited

namespace Given

/-- A value for a switch, or nothing if it has had one or cannot have this one.  Paths are not empty. -/
def set? (g : Given) (switch : Switch) (value : String) : Option Given :=
  match switch with
  | .config => if value.isEmpty || g.config?.isSome then none else some { g with config? := value }
  | .level => if g.level?.isSome then none else some { g with level? := value }
  | .folder => if value.isEmpty || g.folder?.isSome then none else some { g with folder? := value }
  | .help | .version => none

/-- A plain argument. -/
def addPath? (g : Given) (context : Context) (path : String) : Option Given :=
  if context = .decode ∧ !path.isEmpty then some { g with paths := g.paths ++ [path] } else none

end Given

/-- What to do about an argument that starts with a switch. -/
inductive Step where
  | stop (reason : Stop)
  /-- The switch has its value. -/
  | value (switch : Switch) (value : String)
  /-- The next argument is the value of the switch. -/
  | await (switch : Switch)
deriving DecidableEq, Repr, Inhabited

/-- What to do about an argument that is not plain. -/
def Form.step (context : Context) (form : Form) : Step :=
  match form.switch? context with
  | none => .stop .misuse
  | some (.help, value?) => if form matches .long .. && value?.isSome then .stop .misuse else .stop .help
  | some (.version, value?) =>
    if form matches .long .. && value?.isSome then .stop .misuse else .stop .version
  | some (switch, some value) => .value switch value
  | some (switch, none) => .await switch

/-- What is left to read, and how. -/
structure Reader where
  context : Context
  given : Given := {}
  /-- The switch whose value comes next. -/
  awaiting : Option Switch := none
  /-- There are no more switches. -/
  barred : Bool := false
deriving DecidableEq, Repr, Inhabited

namespace Reader

/-- Nothing is missing before the next argument, or at the end. -/
def settled (r : Reader) : Except Stop Given :=
  if r.awaiting.isSome then .error .misuse else .ok r.given

/-- The reader after a change of what is given, or a misuse. -/
def after (r : Reader) (given? : Option Given) : Except Stop Reader :=
  match given? with
  | some given => .ok { r with given, awaiting := none }
  | none => .error .misuse

/-- The reader after one more argument. -/
def next (r : Reader) (argument : String) : Except Stop Reader := do
  match if r.barred then .plain argument else Form.of argument, r.awaiting with
  | .plain value, some switch =>
    if r.barred then throw .misuse
    r.after (r.given.set? switch value)
  | .plain path, none => r.after (r.given.addPath? r.context path)
  | .barrier, _ => return { r with barred := true }
  | form, _ =>
    let given ← r.settled
    match form.step r.context with
    | .stop reason => throw reason
    | .value switch value => r.after (given.set? switch value)
    | .await switch => return { r with awaiting := some switch }

end Reader

/-- What the arguments of a command have said. -/
def readCommand (context : Context) (arguments : List String) : Except Stop Given := do
  (← arguments.foldlM Reader.next { context }).settled

/-- What the arguments before the name of a command have said, and the arguments from that name on. -/
def readProgram : Reader → List String → Except Stop (Given × List String)
  | r, [] => return (← r.settled, [])
  | r, argument :: rest => do
    match Form.of argument with
    | .plain _ =>
      if r.awaiting.isNone && !r.barred then return (r.given, argument :: rest)
      readProgram (← r.next argument) rest
    | _ => readProgram (← r.next argument) rest

/-- A command with what it is about. -/
inductive Command where
  | decode (paths : List String)
  | replay (folder? : Option String)
deriving DecidableEq, Repr, Inhabited

/-- What a user asks for. -/
structure Request where
  command : Command
  config? : Option String := none
  level? : Option String := none
deriving DecidableEq, Repr, Inhabited

/-- The paths that a request names. -/
def Request.paths (r : Request) : List String :=
  r.config?.toList ++ match r.command with
    | .decode paths => paths
    | .replay folder? => folder?.toList

/-- What may be asked for help about. -/
def topics : List String := ["decode", "replay", "help"]

/-- What the arguments of the program ask for. -/
def parse (arguments : List String) : Except Stop Request := do
  let (outer, rest) ← readProgram { context := .program } arguments
  match rest with
  | "decode" :: rest =>
    let inner ← readCommand .decode rest
    if inner.paths.isEmpty then throw .misuse
    return ⟨.decode inner.paths, inner.config? <|> outer.config?, inner.level? <|> outer.level?⟩
  | "replay" :: rest =>
    let inner ← readCommand .replay rest
    return ⟨.replay inner.folder?, inner.config? <|> outer.config?, inner.level? <|> outer.level?⟩
  | "help" :: [] => throw .help
  | "help" :: [topic] => throw (if topics.contains topic then .help else .misuse)
  | _ => throw .misuse

end ReleaseFeed.Arguments
