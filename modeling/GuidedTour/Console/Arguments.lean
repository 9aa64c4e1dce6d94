import GuidedTour.Config.Basic

/-! The arguments of a run. Options may stand before and after the command's name, each at
most once on either side; where both sides give a value, the later one counts. Arguments
are taken in order, and the first that asks for help, or cannot be used, decides. -/
namespace GuidedTour.Console

inductive Opt where
  | verbose | quiet | config | jsonMode | help | version
  | host | port | script | resume | save | snapshot
  deriving DecidableEq, Repr

namespace Opt

def name : Opt → String
  | verbose => "verbose"
  | quiet => "quiet"
  | config => "config"
  | jsonMode => "json-mode"
  | help => "help"
  | version => "version"
  | host => "host"
  | port => "port"
  | script => "script"
  | resume => "resume"
  | save => "save"
  | snapshot => "snapshot"

def letter? : Opt → Option Char
  | verbose => some 'v'
  | quiet => some 'q'
  | config => some 'c'
  | help => some 'h'
  | version => some 'V'
  | host => some 'H'
  | port => some 'p'
  | script | snapshot => some 's'
  | jsonMode | resume | save => none

def takesValue : Opt → Bool
  | config | host | port | script | resume | save | snapshot => true
  | verbose | quiet | jsonMode | help | version => false

/-- A port as it is typed; a zero may have a minus sign. -/
def port? (s : String) : Option Nat :=
  match s.toList with
  | '-' :: digits => (Text.digits? digits).filter (· = 0)
  | cs => Text.unsigned? Config.maxPort cs

/-- A value that an option can be given. Paths must not be empty. -/
def accepts (o : Opt) (value : String) : Bool :=
  match o with
  | config | script | resume | save | snapshot => !value.isEmpty
  | port => (port? value).isSome
  | _ => true

end Opt

inductive Verb where
  | server | machines | validate | replay | progress
  deriving DecidableEq, Repr

namespace Verb

def all : List Verb := [server, machines, validate, replay, progress]

def name : Verb → String
  | server => "server"
  | machines => "machines"
  | validate => "validate"
  | replay => "replay"
  | progress => "progress"

def ofName? (s : String) : Option Verb := all.find? (·.name == s)

/-- Options of the command alone. -/
def opts : Verb → List Opt
  | server => [.host, .port]
  | machines | validate => []
  | replay => [.script, .resume, .save]
  | progress => [.snapshot]

/-- Options that the command cannot do without. -/
def required : Verb → List Opt
  | replay => [.script]
  | progress => [.snapshot]
  | _ => []

end Verb

inductive Command where
  | validate
  | machines
  | server (host : Option String) (port : Option Nat)
  | replay (script : String) (resume save : Option String)
  | progress (snapshot : String)
  deriving DecidableEq, Repr

structure Invocation where
  verbose : Bool := false
  quiet : Bool := false
  jsonMode : Bool := false
  config : Option String := none
  command : Command := .validate
  deriving DecidableEq, Repr

/-- Why arguments run no command. -/
inductive Stop where
  | usage
  | help
  | version
  deriving DecidableEq, Repr

/-- The arguments on one side of the command's name. -/
structure Side where
  opts : List Opt
  /-- What was given so far; a flag has no value. -/
  given : List (Opt × String) := []
  /-- The last option, if it takes a value from the arguments after it. -/
  pending : Option (Opt × Option String) := none
  deriving DecidableEq, Repr

namespace Side

/-- Options on either side. -/
def shared : List Opt := [.verbose, .quiet, .config, .jsonMode, .help]

def front : Side := { opts := .version :: shared }

def after (verb : Verb) : Side := { opts := verb.opts ++ shared }

def value? (s : Side) (o : Opt) : Option String := s.given.lookup o

def has (s : Side) (o : Opt) : Bool := (s.value? o).isSome

def record (s : Side) (o : Opt) (value : String) : Except Stop Side :=
  if s.has o || !o.accepts value then .error .usage
  else .ok { s with given := (o, value) :: s.given }

/-- Records the option that waits, which has to have its value by now. -/
def settle (s : Side) : Except Stop Side :=
  match s.pending with
  | none => .ok s
  | some (_, none) => .error .usage
  | some (o, some value) => { s with pending := none }.record o value

/-- The next argument is a value, if it does not look like an option. -/
def isWaiting (s : Side) : Bool :=
  match s.pending with
  | some (_, none) => true
  | _ => false

def flag (s : Side) (o : Opt) : Except Stop Side := do
  let s ← s.settle
  match o with
  | .help => throw .help
  | .version => throw .version
  | o => s.record o ""

/-- An option whose value stands in the same argument, or else in the next one. -/
def valued (s : Side) (o : Opt) (value : Option String) : Except Stop Side := do
  let s ← s.settle
  match value with
  | some value => s.record o value
  | none => return { s with pending := some (o, none) }

/-- A name after two hyphens, with a value after an equals sign. -/
def long (s : Side) (cs : List Char) : Except Stop Side :=
  let name := cs.takeWhile (· ≠ '=')
  let value := match cs.dropWhile (· ≠ '=') with
    | [] => none
    | _ :: value => some (String.ofList value)
  match s.opts.find? fun o => o.name.toList = name with
  | none => .error .usage
  | some o =>
    if o.takesValue then s.valued o value
    else if value.isSome then .error .usage
    else s.flag o

/-- Letters after one hyphen. What follows the letter of an option with a value is that
value, less an equals sign in front. -/
def short (s : Side) : List Char → Except Stop Side
  | [] => .ok s
  | c :: rest =>
    match s.opts.find? fun o => o.letter? = some c with
    | none => .error .usage
    | some o =>
      if o.takesValue then
        s.valued o (match rest with
          | [] => none
          | '=' :: value => some (String.ofList value)
          | value => some (String.ofList value))
      else do (← s.flag o).short rest

/-- Takes one argument, other than the one that ends the options. -/
def take (s : Side) (arg : String) : Except Stop Side :=
  match arg.toList, s.pending with
  | '-' :: '-' :: name, _ => s.long name
  | '-' :: c :: letters, _ => s.short (c :: letters)
  | _, some (o, none) => .ok { s with pending := some (o, some arg) }
  | _, _ => .error .usage

/-- The argument after which none is an option any more. -/
def endOfOptions : String := "--"

/-- Takes all arguments of a command. None is left over for the command itself. -/
def takeAll (s : Side) : List String → Except Stop Side
  | [] => s.settle
  | arg :: rest =>
    if arg = endOfOptions then (if rest.isEmpty then s.settle else .error .usage)
    else do (← s.take arg).takeAll rest

end Side

/-- The command, which has all that it requires. -/
def Verb.command (verb : Verb) (s : Side) : Except Stop Command :=
  if !verb.required.all s.has then .error .usage
  else match verb with
    | server => .ok (.server (s.value? .host) ((s.value? .port).bind Opt.port?))
    | machines => .ok .machines
    | validate => .ok .validate
    | replay => .ok (.replay ((s.value? .script).getD "") (s.value? .resume) (s.value? .save))
    | progress => .ok (.progress ((s.value? .snapshot).getD ""))

namespace Invocation

def combine (front after : Side) (command : Command) : Invocation where
  verbose := front.has .verbose || after.has .verbose
  quiet := front.has .quiet || after.has .quiet
  jsonMode := front.has .jsonMode || after.has .jsonMode
  config := (after.value? .config).or (front.value? .config)
  command

/-- Help may be asked for on one command by its name. -/
def helpOn : List String → Stop
  | [] => .help
  | [name] => if name = "help" || (Verb.ofName? name).isSome then .help else .usage
  | _ => .usage

/-- A command's name is none where a value is waited for. -/
def parseFrom (front : Side) : List String → Except Stop Invocation
  | [] => do return combine (← front.settle) { opts := [] } .validate
  | arg :: rest =>
    match if front.isWaiting then none else Verb.ofName? arg with
    | some verb => do
      let after ← (Side.after verb).takeAll rest
      let command ← verb.command after
      return combine (← front.settle) after command
    | none =>
      if arg = "help" && !front.isWaiting then .error (helpOn rest)
      else if arg = Side.endOfOptions then
        if rest.isEmpty then do return combine (← front.settle) { opts := [] } .validate
        else .error .usage
      else do parseFrom (← front.take arg) rest

def parse (args : List String) : Except Stop Invocation := parseFrom Side.front args

end Invocation

end GuidedTour.Console
