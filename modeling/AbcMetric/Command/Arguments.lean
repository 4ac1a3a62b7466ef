import AbcMetric.Command.Similar
import AbcMetric.Command.Usage

/-!
# The command line

Arguments are read from left to right. A switch stands alone; a setting takes a value, attached to
it or as the next argument; what is neither is the path. Behind a lone double dash everything is the
path.

A value is checked when the next argument is understood, or at the end, so an argument that is not
understood is reported before a bad value in front of it.

Main definition: `Command.ofArguments`.

These are the rules of the library that the program reads its command line with. Not modelled:
arguments that are no text.
-/

namespace AbcMetric

/-- How much is logged. -/
inductive LogLevel where
  | error
  | warn
  | info
  | debug
  | trace
  deriving DecidableEq, Repr

namespace LogLevel

/-- The names of the levels, from quiet to verbose. -/
def named : List (String × LogLevel) :=
  [("error", .error), ("warn", .warn), ("info", .info), ("debug", .debug), ("trace", .trace)]

/-- The rank of a level; a higher one shows more. -/
def rank : LogLevel → Nat
  | .error => 0
  | .warn => 1
  | .info => 2
  | .debug => 3
  | .trace => 4

end LogLevel

/-- What a run was asked to do. -/
structure RunOptions where
  path : Option String := none
  debug : Bool := false
  verbose : Bool := false
  sort : Bool := false
  workers : Option Nat := none
  format : Option String := none
  logLevel : Option LogLevel := none
  deriving DecidableEq, Repr

/-- What the command is to do. -/
inductive Command where
  | run (options : RunOptions)
  | shortHelp
  | longHelp
  | version
  deriving DecidableEq, Repr

/-- An option without a value. -/
inductive Switch where
  | debug
  | verbose
  | sort
  | help
  | version
  deriving DecidableEq, Repr

/-- An option with a value. -/
inductive Setting where
  | workers
  | format
  | logLevel
  deriving DecidableEq, Repr

/-- An option. -/
inductive CommandOption where
  | switch (s : Switch)
  | setting (s : Setting)
  deriving DecidableEq, Repr

/-- The values that a setting may have, if they are few. -/
def Setting.possible : Setting → List String
  | .workers => []
  | .format => ["text", "json"]
  | .logLevel => LogLevel.named.map (·.1)

namespace CommandOption

/-- The long names of the options. -/
def named : List (String × CommandOption) :=
  [("debug", .switch .debug), ("verbose", .switch .verbose), ("sort", .switch .sort),
   ("workers", .setting .workers), ("cores", .setting .workers), ("format", .setting .format),
   ("log-level", .setting .logLevel), ("help", .switch .help), ("version", .switch .version)]

/-- How an option is shown. -/
def shown : CommandOption → String
  | .switch .debug => "--debug"
  | .switch .verbose => "--verbose"
  | .switch .sort => "--sort"
  | .switch .help => "--help"
  | .switch .version => "--version"
  | .setting .workers => "--workers <WORKERS>"
  | .setting .format => "--format <FORMAT>"
  | .setting .logLevel => "--log-level <LOG_LEVEL>"

end CommandOption

/-! ## Complaints -/

/-- What is wrong with the arguments. -/
inductive ArgumentFault where
  | missingValue (shown : String) (possible : List String)
  | impossibleValue (shown value : String) (possible : List String)
  | badNumber (value reason : String)
  | repeated (shown : String)
  | unneededValue (shown value : String) (used : List String)
  | unknownName (name : String) (similar : Option String) (used : List String)
  | unexpected (argument : String) (likeOption : Bool)
  deriving DecidableEq, Repr

namespace ArgumentFault

/-- The possible values on a line of their own. -/
def possibleText (possible : List String) : String :=
  if possible.isEmpty then ""
  else
    let shown := String.intercalate ", " possible
    s!"\n  [possible values: {shown}]"

/-- The complaint itself. -/
def text : ArgumentFault → String
  | .missingValue shown possible =>
    s!"a value is required for '{shown}' but none was supplied" ++ possibleText possible
  | .impossibleValue shown value possible =>
    s!"invalid value '{value}' for '{shown}'" ++ possibleText possible
  | .badNumber value reason =>
    let shown := CommandOption.shown (.setting .workers)
    s!"invalid value '{value}' for '{shown}': {reason}"
  | .repeated shown => s!"the argument '{shown}' cannot be used multiple times"
  | .unneededValue shown value _ =>
    s!"unexpected value '{value}' for '{shown}' found; no more were expected"
  | .unknownName name _ _ => s!"unexpected argument '--{name}' found"
  | .unexpected argument _ => s!"unexpected argument '{argument}' found"

/-- How an argument that looks like an option can be passed as a value. -/
def escapeTip (argument : String) : String :=
  s!"to pass '{argument}' as a value, use '-- {argument}'"

/-- Advice that goes with the complaint. -/
def tip? : ArgumentFault → Option String
  | .impossibleValue _ value possible =>
    (mostSimilar? value possible).map fun similar => s!"a similar value exists: '{similar}'"
  | .unknownName _ (some similar) _ => some s!"a similar argument exists: '--{similar}'"
  | .unknownName name none _ => some (escapeTip ("--" ++ name))
  | .unexpected argument true => some (escapeTip argument)
  | _ => none

/-- The arguments for the usage line, if the complaint has one. -/
def usage? : ArgumentFault → Option (List String)
  | .repeated _ => some []
  | .unneededValue _ _ used => some used
  | .unknownName _ _ used => some used
  | .unexpected _ _ => some []
  | _ => none

/-- The whole message. -/
def message (fault : ArgumentFault) : String :=
  let parts := ["error: " ++ fault.text] ++ (fault.tip?.map ("  tip: " ++ ·)).toList ++
    (fault.usage?.map usageLine).toList ++ ["For more information, try '--help'.\n"]
  String.intercalate "\n\n" parts

end ArgumentFault

/-! ## Reading arguments -/

/-- A value that was not checked yet, or a setting that waits for its value. -/
inductive Pending where
  | setting (s : Setting) (value : Option String)
  | path (value : String)
  deriving DecidableEq, Repr

/-- What was read so far: the options, how those that were given are shown, what is pending, whether
the path was given, and whether a double dash was. -/
structure Reading where
  options : RunOptions := {}
  used : List String := []
  pending : Option Pending := none
  hasPath : Bool := false
  onlyPath : Bool := false
  deriving DecidableEq, Repr

/-- Why reading stops before the end. -/
inductive Stop where
  | fault (f : ArgumentFault)
  | command (c : Command)
  deriving DecidableEq, Repr

/-- A number of workers. -/
def workersOf (value : String) : Except String Nat :=
  let digits := match value.toList with
    | '+' :: rest => rest
    | chars => chars
  let n := digits.foldl (fun n c => 10 * n + (c.toNat - '0'.toNat)) 0
  if digits.isEmpty || !digits.all Char.isDigit || UInt64.size ≤ n then
    .error s!"'{value}' is not a valid number"
  else if n = 0 then .error "workers must be at least 1"
  else if 64 < n then .error "workers cannot exceed 64"
  else .ok n

namespace Reading

/-- Notes that an argument was given. -/
def use (r : Reading) (shown : String) : Reading :=
  if shown ∈ r.used then r else { r with used := r.used ++ [shown] }

/-- Turns a switch on. -/
def turnOn (r : Reading) (s : Switch) : Except Stop Reading :=
  let r' := r.use (CommandOption.switch s).shown
  let refused : Except Stop Reading := .error (.fault (.repeated (CommandOption.switch s).shown))
  match s with
  | .debug => if r.options.debug then refused else .ok { r' with options.debug := true }
  | .verbose => if r.options.verbose then refused else .ok { r' with options.verbose := true }
  | .sort => if r.options.sort then refused else .ok { r' with options.sort := true }
  | .help => .error (.command .longHelp)
  | .version => .error (.command .version)

/-- The value of a setting that has few, if it is one of them. -/
def choose (s : Setting) (value : String) : Except Stop Unit :=
  let shown := (CommandOption.setting s).shown
  if value ∈ s.possible then .ok ()
  else if value = "" then .error (.fault (.missingValue shown s.possible))
  else .error (.fault (.impossibleValue shown value s.possible))

/-- Gives a setting its value. -/
def assign (r : Reading) (s : Setting) (value : String) : Except Stop Reading := do
  let shown := (CommandOption.setting s).shown
  let r' := r.use shown
  let refused : Except Stop Reading := .error (.fault (.repeated shown))
  match s with
  | .workers =>
    if r.options.workers.isSome then refused
    else
      match workersOf value with
      | .ok n => return { r' with options.workers := some n }
      | .error reason => .error (.fault (.badNumber value reason))
  | .format =>
    if r.options.format.isSome then refused
    else
      choose s value
      return { r' with options.format := some value }
  | .logLevel =>
    if r.options.logLevel.isSome then refused
    else
      choose s value
      return { r' with options.logLevel := LogLevel.named.lookup value }

/-- Checks what is pending. -/
def settle (r : Reading) : Except Stop Reading :=
  let idle := { r with pending := none }
  match r.pending with
  | none => .ok r
  | some (.path value) =>
    if value = "" then .error (.fault (.missingValue pathArgument []))
    else .ok ({ idle with options.path := some value }.use pathArgument)
  | some (.setting s none) =>
    .error (.fault (.missingValue (CommandOption.setting s).shown s.possible))
  | some (.setting s (some value)) => idle.assign s value

/-- An argument that starts with two dashes, as a name and an attached value. -/
def long (r : Reading) (name : String) (value : Option String) : Except Stop Reading := do
  match CommandOption.named.lookup name, value with
  | some (.switch s), none => (← r.settle).turnOn s
  | some (.switch s), some value =>
    let shown := (CommandOption.switch s).shown
    .error (.fault (.unneededValue shown value (r.use shown).used))
  | some (.setting s), none => return { (← r.settle) with pending := some (.setting s none) }
  | some (.setting s), some value => (← r.settle).assign s value
  | none, _ =>
    let similar := mostSimilar? name (CommandOption.named.map (·.1))
    let r := (r.settle.toOption).getD r
    let r := match similar.bind (CommandOption.named.lookup ·) with
      | some option => r.use option.shown
      | none => r
    .error (.fault (.unknownName name similar r.used))

/-- Letters behind one dash. -/
def short (r : Reading) : List Char → Except Stop Reading
  | [] => .ok r
  | 'h' :: _ => do
    let _ ← r.settle
    .error (.command .shortHelp)
  | 'V' :: _ => do
    let _ ← r.settle
    .error (.command .version)
  | ['f'] => do return { (← r.settle) with pending := some (.setting .format none) }
  | 'f' :: '=' :: value => do (← r.settle).assign .format (String.ofList value)
  | 'f' :: value => do (← r.settle).assign .format (String.ofList value)
  | c :: _ => .error (.fault (.unexpected (String.ofList ['-', c]) true))

/-- An argument that is a value: of the setting that waits for it, or the path. -/
def plain (r : Reading) (value : String) : Except Stop Reading := do
  match r.pending, r.onlyPath with
  | some (.setting s none), false => return { r with pending := some (.setting s (some value)) }
  | _, _ =>
    if r.hasPath then .error (.fault (.unexpected value false))
    else return { (← r.settle) with pending := some (.path value), hasPath := true }

/-- Reads one argument. -/
def read (r : Reading) (argument : String) : Except Stop Reading :=
  if r.onlyPath then r.plain argument
  else
    match argument.toList with
    | ['-', '-'] => .ok { r with onlyPath := true }
    | '-' :: '-' :: rest =>
      let name := rest.takeWhile (· ≠ '=')
      let value := match rest.drop name.length with
        | [] => none
        | _ :: value => some (String.ofList value)
      r.long (String.ofList name) value
    | '-' :: c :: rest => r.short (c :: rest)
    | _ => r.plain argument

end Reading

/-- What the arguments ask for. -/
def Command.ofArguments (arguments : List String) : Except ArgumentFault Command :=
  let reading := do (← arguments.foldlM Reading.read {}).settle
  match reading with
  | .ok r => .ok (.run r.options)
  | .error (.command c) => .ok c
  | .error (.fault f) => .error f

end AbcMetric
