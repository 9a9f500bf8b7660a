import CrossFilter.Chart.Kind

/-!
# Command-line arguments

The grammar of the command line: options that hold for every command, the name of a command, and
its own options and arguments. An option takes one value, behind an equals sign or as the next
argument; a value that looks like an option has to be attached. Behind `--` every argument stands
for itself. An option may be given once, unless it collects values; options for every command may be
given again behind the command's name, and the later one counts.

The command line is read from left to right, and the first thing to stop the reading counts: a
mistake, or a request for help or for the version. The value of an option is looked at when the next
option begins or the reading ends, and what stands before a command's name is looked at last.
-/

namespace CrossFilter.Command

/-- Why no command is run. -/
inductive Stop where
  | help
  | version
  | misuse (reason : String)
  deriving DecidableEq, Repr

inductive Action where
  | columns
  | chart (x : String) (y : Option String) (kind : Option Chart.Kind) (title : Option String)
      (filters : List (String × String))
  | pivot (rows columns values : List String) (filters : List (String × String))
  | recast (changes : List (String × String))
  deriving DecidableEq, Repr

structure Invocation where
  backend : Option String
  token : Option String
  action : Action
  deriving DecidableEq, Repr

def unexpected (s : String) : Stop := .misuse s!"unexpected argument '{s}' found"

def valueless (name : String) : Stop :=
  .misuse s!"a value is required for '--{name}' but none was supplied"

def unrecognized (name : String) : Stop := .misuse s!"unrecognized subcommand '{name}'"

/-! ## Words -/

/-- An option with its value, or an argument that stands for itself. -/
inductive Word where
  | option (name value : String)
  | argument (text : String)
  deriving DecidableEq, Repr

def valuesOf (name : String) (ws : List Word) : List String :=
  ws.filterMap fun
    | .option n value => if n = name then some value else none
    | .argument _ => none

def argumentsOf (ws : List Word) : List String :=
  ws.filterMap fun
    | .option _ _ => none
    | .argument s => some s

/-- The value of an option that may be given once. -/
def single (name : String) (ws : List Word) : Except Stop (Option String) :=
  match valuesOf name ws with
  | [] => .ok none
  | [value] => .ok (some value)
  | _ => .error (.misuse s!"the argument '--{name}' cannot be used multiple times")

def required {α : Type} (name : String) : Option α → Except Stop α
  | some a => .ok a
  | none => .error (.misuse s!"the required argument '{name}' was not provided")

/-- The values of an option that collects them, each split at its commas. -/
def collected (name : String) (ws : List Word) : List String :=
  (valuesOf name ws).flatMap (Text.split ',')

def nonEmpty (name : String) : List String → Except Stop (List String)
  | [] => .error (.misuse s!"the required argument '{name}' was not provided")
  | values => .ok values

/-- A column and a text, separated by the first equals sign. -/
def pair (s : String) : Except Stop (String × String) :=
  match Text.splitFirst? '=' s with
  | some (key, value) =>
    if Text.allBlank key then .error (.misuse s!"expected COL=VALUE, got '{s}'")
    else .ok (Text.trim key, Text.trim value)
  | none => .error (.misuse s!"expected COL=VALUE, got '{s}'")

def kindOf (s : String) : Except Stop Chart.Kind :=
  (Chart.Kind.ofName s).mapError fun e => .misuse e.message

/-! ## Commands -/

/-- The options that stand before a command's name or behind it. -/
def sharedNames : List String := ["backend", "token"]

/-- What may stand in one part of the command line: before the name of a command, or behind it. -/
structure Level where
  options : List String
  /-- Whether arguments stand for themselves. -/
  takesArguments : Bool
  /-- Whether this is the part before the name of a command. -/
  front : Bool
  deriving DecidableEq, Repr

def Level.top : Level := ⟨sharedNames, false, true⟩

/-- The part behind the name of a command, if there is one of that name. -/
def Level.ofCommand? : String → Option Level
  | "columns" => some ⟨sharedNames, false, false⟩
  | "chart" => some ⟨sharedNames ++ ["x", "y", "kind", "title", "filter"], false, false⟩
  | "pivot" => some ⟨sharedNames ++ ["rows", "columns", "values", "filter"], false, false⟩
  | "recast" => some ⟨sharedNames, true, false⟩
  | _ => none

/-- The options that may be given once. -/
def singleNames : List String := sharedNames ++ ["x", "y", "kind", "title"]

/-- Refuses words that are no use whatever follows: an option given again, or a value that cannot
be read. -/
def settle (ws : List Word) : Except Stop Unit := do
  discard <| singleNames.mapM fun name => single name ws
  discard <| (valuesOf "kind" ws).mapM kindOf
  discard <| (valuesOf "filter" ws).mapM pair
  discard <| (argumentsOf ws).mapM pair

def chartAction (ws : List Word) : Except Stop Action := do
  let x ← required "--x" (← single "x" ws)
  let kind ← (← single "kind" ws).mapM kindOf
  return .chart x (← single "y" ws) kind (← single "title" ws)
    (← (valuesOf "filter" ws).mapM pair)

def pivotAction (ws : List Word) : Except Stop Action := do
  let rows ← nonEmpty "--rows" (collected "rows" ws)
  let values ← nonEmpty "--values" (collected "values" ws)
  return .pivot rows (collected "columns" ws) values (← (valuesOf "filter" ws).mapM pair)

def recastAction (ws : List Word) : Except Stop Action := do
  return .recast (← (← nonEmpty "CHANGES" (argumentsOf ws)).mapM pair)

def Action.ofWords (name : String) (ws : List Word) : Except Stop Action :=
  match name with
  | "columns" => .ok .columns
  | "chart" => chartAction ws
  | "pivot" => pivotAction ws
  | "recast" => recastAction ws
  | _ => .error (unrecognized name)

/-! ## Reading -/

/-- Whether an argument is spelled like an option; a single dash is not. -/
def looksLikeOption (s : String) : Bool := Text.startsWith "-" s && s != "-"

/-- The name of a long option and the value attached to it. -/
def longOption (s : String) : String × Option String :=
  let body := String.ofList (s.toList.drop 2)
  match Text.splitFirst? '=' body with
  | some (name, value) => (name, some value)
  | none => (body, none)

/-- What an argument asks for instead of a command. Behind a single dash the first letter decides.
The version is only known before the name of a command. -/
def Level.stopAsked? (level : Level) (s : String) : Option Stop :=
  match s.toList with
  | '-' :: 'h' :: _ => some .help
  | '-' :: 'V' :: _ => if level.front then some .version else none
  | _ =>
    if s = "--help" then some .help
    else if level.front && s = "--version" then some .version
    else none

/-- Reads one part of the command line, of which `ws` was read before. The part before the name of
a command ends at that name, with which the unread arguments begin. -/
def Level.read (level : Level) (ws : List Word) :
    List String → Except Stop (List Word × List String)
  | [] => do
    settle ws
    return (ws, [])
  | "--" :: rest =>
    if level.takesArguments then do
      let ws := ws ++ rest.map .argument
      settle ws
      return (ws, [])
    else match rest with
      | [] => do
        settle ws
        return (ws, [])
      | s :: _ => .error (unexpected s)
  | s :: rest =>
    match level.stopAsked? s with
    | some stop => do
      settle ws
      throw stop
    | none =>
      if Text.startsWith "--" s then
        let (name, attached) := longOption s
        if level.options.contains name then
          match attached, rest with
          | some value, rest => do
            let ws := ws ++ [.option name value]
            settle ws
            level.read ws rest
          | none, value :: rest => do
            settle ws
            if looksLikeOption value then throw (valueless name)
            level.read (ws ++ [.option name value]) rest
          | none, [] => .error (valueless name)
        else .error (unexpected s)
      else if looksLikeOption s then .error (unexpected s)
      else if level.front then .ok (ws, s :: rest)
      else if level.takesArguments then level.read (ws ++ [.argument s]) rest
      else .error (unexpected s)

/-- The stop of the command `help`, which may name a command or itself. -/
def helpOn : List String → Stop
  | [] => .help
  | [name] =>
    if name = "help" || (Level.ofCommand? name).isSome then .help else unrecognized name
  | _ :: name :: _ => unrecognized name

/-- The invocation that some arguments ask for. -/
def Invocation.ofArguments (args : List String) : Except Stop Invocation := do
  match ← Level.top.read [] args with
  | (_, []) => throw (.misuse "a command is required")
  | (_, "help" :: names) => throw (helpOn names)
  | (front, name :: rest) =>
    match Level.ofCommand? name with
    | none => throw (unrecognized name)
    | some level =>
      let (ws, _) ← level.read [] rest
      let action ← Action.ofWords name ws
      let shared := fun option => do
        let early ← single option front
        return (← single option ws) <|> early
      return { backend := ← shared "backend", token := ← shared "token", action }

end CrossFilter.Command
