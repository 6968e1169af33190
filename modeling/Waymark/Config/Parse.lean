import Waymark.Config.Basic
import Waymark.Yaml.Decode

/-! Settings as YAML text. Every setting can be left out. -/
namespace Waymark
namespace Config

open Yaml

/-- Why a text holds no settings. -/
inductive ParseError where
  | malformed (cause : Fault)
  | mistyped
  deriving DecidableEq, Repr

def ParseError.message : ParseError → String
  | malformed cause => cause.message
  | mistyped => "a setting has a value of the wrong type or is given twice"

def tldrOfYaml? (d : Document) (n : Node) : Option TldrSettings :=
  match d.columns? ["max_line", "max_line_markdown"] n with
  | some [maxLine, maxLineMarkdown] => do
    return ⟨← Document.optional? standardTldr.maxLine d.nat? maxLine,
      ← Document.optional? standardTldr.maxLineMarkdown d.nat? maxLineMarkdown⟩
  | _ => none

def previewOfYaml? (d : Document) (n : Node) : Option Nat :=
  match d.columns? ["preview_length"] n with
  | some [previewLength] => Document.optional? standard.previewLength d.nat? previewLength
  | _ => none

def commandOfYaml? (d : Document) (n : Node) : Option (List String) :=
  match d.columns? ["command"] n with
  | some [command] => Document.optional? [] (d.list? d.text?) command
  | _ => none

def keys : List String :=
  ["strict", "tldr", "signals", "grammar", "excluded_paths", "include_hidden"]

def ofYaml? (d : Document) : Option Config :=
  match d.columns? keys d.root with
  | some [strict, tldr, signals, grammar, excludedPaths, includeHidden] => do
    return {
      strict := ← Document.optional? false d.bool? strict
      tldr := ← Document.optional? standardTldr (tldrOfYaml? d) tldr
      previewLength := ← Document.optional? standard.previewLength (previewOfYaml? d) signals
      command := ← Document.optional? [] (commandOfYaml? d) grammar
      excludedPaths := ← Document.optional? [] (d.list? d.text?) excludedPaths
      includeHidden := ← Document.optional? false d.bool? includeHidden }
  | _ => none

def parse (text : String) : Except ParseError Config :=
  match Document.parse text.toList with
  | .error e => .error (.malformed e)
  | .ok d => (ofYaml? d).elim (.error .mistyped) .ok

end Config
end Waymark
