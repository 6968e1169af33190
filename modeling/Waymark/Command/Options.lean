/-! Reading the options and the operand of a command. -/
namespace Waymark
namespace Command

/-- Why a command line is not carried out. -/
inductive Usage where
  | missingArgument
  | unknownArgument
  | unknownCommand
  /-- An option without its value, or an empty path. -/
  | missingValue
  /-- An option that is given twice. -/
  | repeated
  /-- A value for an option that takes none. -/
  | unwantedValue
  | noCommand
  | help
  | version
  deriving DecidableEq, Repr

/-- Asking for help or the version is no error. -/
def Usage.status : Usage → Nat
  | help | version => 0
  | _ => 2

/-- What an option takes. -/
inductive Takes where
  | nothing
  | text
  /-- A text that is not empty. -/
  | path
  deriving DecidableEq, Repr

structure OptionSpec where
  long : String
  short : Option Char
  takes : Takes
  deriving DecidableEq, Repr

/-- What can be given to a command: its options, and whether it needs a path. -/
structure Shape where
  options : List OptionSpec
  operand : Bool
  deriving DecidableEq, Repr

/-- What was given to a command. -/
structure Given where
  flags : List String
  values : List (String × String)
  operand : Option String
  deriving DecidableEq, Repr

namespace Given

def none : Given :=
  ⟨[], [], .none⟩

def flag (g : Given) (name : String) : Bool :=
  g.flags.contains name

def value? (g : Given) (name : String) : Option String :=
  g.values.lookup name

end Given

/-- Something that has been read but not yet stored. -/
inductive Pending where
  | option (spec : OptionSpec) (value : Option String)
  | operand (value : String)
  deriving DecidableEq, Repr

structure Reader where
  given : Given
  pending : Option Pending
  /-- Whether the place of the operand is taken. -/
  filled : Bool
  deriving DecidableEq, Repr

namespace Reader

def start : Reader :=
  ⟨.none, none, false⟩

def storeValue (r : Reader) (spec : OptionSpec) (value : String) : Except Usage Reader :=
  if (r.given.value? spec.long).isSome then .error .repeated
  else if spec.takes = .path ∧ value = "" then .error .missingValue
  else .ok { r with given := { r.given with values := (spec.long, value) :: r.given.values } }

/-- Stores what is pending. -/
def settle (r : Reader) : Except Usage Reader :=
  let cleared := { r with pending := none }
  match r.pending with
  | none => .ok r
  | some (.option _ none) => .error .missingValue
  | some (.option spec (some value)) => cleared.storeValue spec value
  | some (.operand value) =>
    if value = "" then .error .missingValue
    else .ok { cleared with given := { cleared.given with operand := some value } }

def setFlag (r : Reader) (spec : OptionSpec) : Except Usage Reader :=
  r.settle.bind fun s =>
    if s.given.flag spec.long then .error .repeated
    else .ok { s with given := { s.given with flags := spec.long :: s.given.flags } }

/-- Notes that the value of an option comes next. -/
def awaitValue (r : Reader) (spec : OptionSpec) : Except Usage Reader :=
  r.settle.map fun s => { s with pending := some (.option spec none) }

def attachValue (r : Reader) (spec : OptionSpec) (value : String) : Except Usage Reader :=
  r.settle.bind fun s => s.storeValue spec value

/-- Help is given as soon as it is asked for. -/
def askHelp (r : Reader) : Except Usage Reader :=
  r.settle.bind fun _ => .error .help

/-- Reads an option by its long name; a value may follow an equals sign. -/
def longOption (r : Reader) (shape : Shape) (text : List Char) : Except Usage Reader :=
  let name := String.ofList (text.takeWhile (· ≠ '='))
  let attached :=
    match text.dropWhile (· ≠ '=') with
    | [] => none
    | _ :: value => some (String.ofList value)
  if name = "help" then if attached.isSome then .error .unwantedValue else r.askHelp
  else
    match shape.options.find? fun o => o.long = name, attached with
    | none, _ => .error .unknownArgument
    | some spec, none => if spec.takes = .nothing then r.setFlag spec else r.awaitValue spec
    | some spec, some value =>
      if spec.takes = .nothing then .error .unwantedValue else r.attachValue spec value

/-- Reads options by their letters; what follows the letter of an option with a value is its
value. -/
def shortOptions (shape : Shape) : Reader → List Char → Except Usage Reader
  | r, [] => .ok r
  | r, c :: cs =>
    if c = 'h' then r.askHelp
    else
      match shape.options.find? fun o => o.short = some c with
      | none => .error .unknownArgument
      | some spec =>
        if spec.takes = .nothing then (r.setFlag spec).bind fun s => shortOptions shape s cs
        else
          match cs with
          | [] => r.awaitValue spec
          | '=' :: value => r.attachValue spec (String.ofList value)
          | value => r.attachValue spec (String.ofList value)

/-- Reads an argument that is no option. -/
def operand (r : Reader) (shape : Shape) (arg : String) : Except Usage Reader :=
  if shape.operand ∧ !r.filled then
    r.settle.map fun s => { s with pending := some (.operand arg), filled := true }
  else .error .unknownArgument

/-- Reads an argument that may be an option, or the value that an option waits for. -/
def argument (r : Reader) (shape : Shape) (arg : String) : Except Usage Reader :=
  match arg.toList with
  | '-' :: '-' :: text => r.longOption shape text
  | '-' :: c :: cs => shortOptions shape r (c :: cs)
  | _ =>
    match r.pending with
    | some (.option spec none) => .ok { r with pending := some (.option spec (some arg)) }
    | _ => r.operand shape arg

/-- Reads all arguments. After two dashes no argument is an option. -/
def readAll (shape : Shape) : Bool → Reader → List String → Except Usage Given
  | _, r, [] =>
    r.settle.bind fun s =>
      if shape.operand ∧ s.given.operand.isNone then .error .missingArgument else .ok s.given
  | false, r, arg :: rest =>
    if arg = "--" then readAll shape true r rest
    else (r.argument shape arg).bind fun s => readAll shape false s rest
  | true, r, arg :: rest => (r.operand shape arg).bind fun s => readAll shape true s rest

end Reader

/-- What the arguments give to a command. -/
def Shape.read (shape : Shape) (args : List String) : Except Usage Given :=
  Reader.readAll shape false .start args

end Command
end Waymark
