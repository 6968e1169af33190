import Waymark.Check.Rules
import Waymark.Glob.Parse
import Waymark.Text.Quoted

/-! Settings of a check. -/
namespace Waymark

/-- On which line a summary has to stand at the latest. -/
structure TldrSettings where
  maxLine : Nat
  maxLineMarkdown : Nat
  deriving DecidableEq, Repr

structure Config where
  /-- Whether warnings fail a check. -/
  strict : Bool
  tldr : TldrSettings
  /-- The length of a preview. -/
  previewLength : Nat
  /-- The program that reads waymarks, and its arguments. -/
  command : List String
  /-- Globs of the paths that are left out. -/
  excludedPaths : List String
  /-- Whether directories whose names start with a dot are searched. -/
  includeHidden : Bool
  deriving DecidableEq, Repr

namespace Config

def standardTldr : TldrSettings :=
  ⟨Check.Options.standard.tldrMaxLine, Check.Options.standard.tldrMaxLineMarkdown⟩

/-- The settings of a check without a config file. -/
def standard : Config :=
  { strict := false
    tldr := standardTldr
    previewLength := Check.Options.standard.previewLength
    command := []
    excludedPaths := []
    includeHidden := false }

def mode (c : Config) : Mode :=
  if c.strict then .strict else .default

def checkOptions (c : Config) : Check.Options :=
  ⟨c.tldr.maxLine, c.tldr.maxLineMarkdown, c.previewLength⟩

/-- Whether one of the globs matches the path; globs that cannot be read match nothing. -/
def excludes (c : Config) (path : String) : Bool :=
  c.excludedPaths.any fun pattern => Glob.accepts pattern path

/-- Why settings make no sense. -/
inductive Invalid where
  | zeroThreshold
  | zeroPreview
  | emptyArgument
  | badPattern (cause : Glob.ParseError)
  deriving DecidableEq, Repr

def Invalid.message : Invalid → String
  | zeroThreshold => "tldr line thresholds must be at least 1"
  | zeroPreview => "signals.preview_length must be at least 1"
  | emptyArgument => "grammar.command must not contain empty arguments"
  | badPattern cause =>
    "invalid excluded_paths pattern " ++
      String.ofList (Text.quoted .text cause.pattern.toList) ++ ": " ++ cause.message

/-- The first glob that cannot be read. -/
def badPattern? : List String → Option Glob.ParseError
  | [] => none
  | pattern :: rest =>
    match Glob.parse pattern with
    | .error e => some e
    | .ok _ => badPattern? rest

def validate (c : Config) : Except Invalid Unit :=
  if c.tldr.maxLine = 0 ∨ c.tldr.maxLineMarkdown = 0 then .error .zeroThreshold
  else if c.previewLength = 0 then .error .zeroPreview
  else if c.command.any fun a => Text.isBlankText a.toList then .error .emptyArgument
  else
    match badPattern? c.excludedPaths with
    | some e => .error (.badPattern e)
    | none => .ok ()

end Config
end Waymark
