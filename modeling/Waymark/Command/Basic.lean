import Waymark.Command.Options
import Waymark.Path

/-! The commands of the program, and the command line. -/
namespace Waymark

structure CheckArguments where
  path : Path
  config : Option Path
  format : String
  strict : Bool
  noColor : Bool
  deriving DecidableEq, Repr

structure InsertPointArguments where
  file : Path
  language : Option String
  config : Option Path
  json : Bool
  deriving DecidableEq, Repr

structure DocstringArguments where
  file : Path
  language : Option String
  json : Bool
  deriving DecidableEq, Repr

structure InitArguments where
  output : Path
  template : String
  list : Bool
  deriving DecidableEq, Repr

inductive Command where
  | check (args : CheckArguments)
  | insertPoint (args : InsertPointArguments)
  | docstring (args : DocstringArguments)
  | init (args : InitArguments)
  deriving DecidableEq, Repr

namespace Command

/-- The commands by name. -/
inductive Name where
  | check
  | insertPoint
  | docstring
  | init
  | help
  deriving DecidableEq, Repr

def Name.ofText? (s : String) : Option Name :=
  [("check", Name.check), ("lint", .check), ("insert-point", .insertPoint),
    ("docstring", .docstring), ("init", .init), ("help", .help)].lookup s

def configOption : OptionSpec :=
  ⟨"config", some 'c', .path⟩

def languageOption : OptionSpec :=
  ⟨"language", some 'l', .text⟩

def jsonOption : OptionSpec :=
  ⟨"json", none, .nothing⟩

def checkShape : Shape :=
  { options :=
      [configOption, ⟨"format", some 'f', .text⟩, ⟨"strict", none, .nothing⟩,
        ⟨"no-color", none, .nothing⟩]
    operand := true }

def insertPointShape : Shape :=
  ⟨[languageOption, configOption, jsonOption], true⟩

def docstringShape : Shape :=
  ⟨[languageOption, jsonOption], true⟩

def initShape : Shape :=
  { options :=
      [⟨"output", some 'o', .path⟩, ⟨"template", some 't', .text⟩, ⟨"list", some 'l', .nothing⟩]
    operand := false }

def pathOf (g : Given) : Path :=
  ⟨g.operand.getD ""⟩

def configOf (g : Given) : Option Path :=
  (g.value? "config").map Path.mk

def checkOf (g : Given) : CheckArguments :=
  { path := pathOf g
    config := configOf g
    format := (g.value? "format").getD "pretty"
    strict := g.flag "strict"
    noColor := g.flag "no-color" }

def insertPointOf (g : Given) : InsertPointArguments :=
  ⟨pathOf g, g.value? "language", configOf g, g.flag "json"⟩

def docstringOf (g : Given) : DocstringArguments :=
  ⟨pathOf g, g.value? "language", g.flag "json"⟩

def initOf (g : Given) : InitArguments :=
  { output := ⟨(g.value? "output").getD "waymark.yaml"⟩
    template := (g.value? "template").getD "default"
    list := g.flag "list" }

/-- Help on a command; its commands have no commands of their own. -/
def helpOn : List String → Usage
  | [] => .help
  | [topic] => if (Name.ofText? topic).isSome then .help else .unknownCommand
  | _ :: _ :: _ => .unknownCommand

/-- Reads the arguments of a command. -/
def parseFor (args : List String) : Name → Except Usage Command
  | .check => (checkShape.read args).map fun g => .check (checkOf g)
  | .insertPoint => (insertPointShape.read args).map fun g => .insertPoint (insertPointOf g)
  | .docstring => (docstringShape.read args).map fun g => .docstring (docstringOf g)
  | .init => (initShape.read args).map fun g => .init (initOf g)
  | .help => .error (helpOn args)

/-- An option in front of a command. -/
def leadingOption : List Char → Usage
  | '-' :: name =>
    if name = "help".toList then .help
    else if name = "version".toList then .version
    else if "help=".toList.isPrefixOf name || "version=".toList.isPrefixOf name then .unwantedValue
    else .unknownArgument
  | 'h' :: _ => .help
  | 'V' :: _ => .version
  | _ => .unknownArgument

/-- What two dashes in front of a command lead to. -/
def afterDashes : List String → Usage
  | [] => .noCommand
  | arg :: _ => if (Name.ofText? arg).isSome then .unknownArgument else .unknownCommand

/-- Reads a command line without the name of the program. -/
def parse : List String → Except Usage Command
  | [] => .error .noCommand
  | arg :: rest =>
    match Name.ofText? arg with
    | some name => parseFor rest name
    | none =>
      if arg = "--" then .error (afterDashes rest)
      else
        match arg.toList with
        | '-' :: c :: cs => .error (leadingOption (c :: cs))
        | _ => .error .unknownCommand

end Command
end Waymark
