import Waymark.Command.World
import Waymark.Config.Template

/-! The command that writes a config file. -/
namespace Waymark
namespace Command

def listTemplates : Outcome :=
  let named (t : Template) : String := if t.name = "default" then t.name ++ " (default)" else t.name
  succeed (lines (
    ["Available templates:", ""] ++
    (Template.all.map fun t => "  " ++ Text.padded 20 (named t) ++ " " ++ t.description) ++
    ["", "Usage:", "  waymark init --template <name>"]))

def created (output : Path) (t : Template) : Outcome :=
  succeed (lines
    ["Created " ++ output.raw ++ " from template '" ++ t.name ++ "'",
      "",
      "Next steps:",
      "  1. Point grammar.command at your waymark parser",
      "  2. Run: waymark check . --config " ++ output.raw])

/-- The tree with the directory in which a file is to be written. -/
def prepareParent (t : FileTree) (output : Path) : Except SystemError FileTree :=
  match output.parent? with
  | none => .ok t
  | some parent =>
    if parent.components = [] ∨ parent.components = [.here] then .ok t
    else t.makeDirectories parent

/-- Writes a template to a new file, and returns the tree that it leaves. -/
def writeTemplate (t : FileTree) (output : Path) (template : Template) : Outcome × FileTree :=
  if t.contains output then
    (refuse ["Error: file already exists: " ++ output.raw,
      "Remove it or use --output to specify a different path"], t)
  else
    match prepareParent t output with
    | .error e => (refuse ["Error: failed to create directory: " ++ e.message], t)
    | .ok based =>
      match based.write output template.text.toUTF8 with
      | .error e => (refuse ["Error: failed to write config: " ++ e.message], based)
      | .ok written => (created output template, written)

def initIn (t : FileTree) (a : InitArguments) : Outcome × FileTree :=
  if a.list then (listTemplates, t)
  else
    match Template.find? a.template with
    | none =>
      (refuse ["Error: unknown template " ++ quote a.template,
        "Run 'waymark init --list' to see available templates"], t)
    | some template => writeTemplate t a.output template

end Command
end Waymark
