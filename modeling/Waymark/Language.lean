import Waymark.Path

/-! The source languages whose comments are understood, and the table of rules for each. -/
namespace Waymark

inductive Language where
  | javascript
  | typescript
  | python
  | ruby
  | rust
  | go
  | markdown
  | shell
  deriving DecidableEq, Repr

namespace Language

def all : List Language :=
  [javascript, typescript, python, ruby, rust, go, markdown, shell]

def id : Language → String
  | javascript => "javascript"
  | typescript => "typescript"
  | python => "python"
  | ruby => "ruby"
  | rust => "rust"
  | go => "go"
  | markdown => "markdown"
  | shell => "shell"

/-- The language with exactly this identifier. -/
def ofId? (s : String) : Option Language :=
  all.find? fun l => l.id == s

/-- File extensions in lower case. -/
def extensions : Language → List String
  | javascript => ["js", "jsx", "mjs", "cjs"]
  | typescript => ["ts", "tsx", "mts", "cts"]
  | python => ["py", "pyi"]
  | ruby => ["rb", "rake", "gemspec"]
  | rust => ["rs"]
  | go => ["go"]
  | markdown => ["md", "mdx", "markdown"]
  | shell => ["sh", "bash", "zsh"]

/-- The language of a file extension, upper and lower case alike. -/
def ofExtension? (ext : String) : Option Language :=
  all.find? fun l => l.extensions.contains (String.ofList (Text.asciiLower ext.toList))

def ofPath? (p : Path) : Option Language :=
  p.extension?.bind ofExtension?

/-- Names a user may give besides the extensions. -/
def aliases : Language → List String
  | javascript => ["javascript", "node"]
  | typescript => ["typescript"]
  | python => ["python"]
  | ruby => ["ruby"]
  | rust => ["rust"]
  | go => ["golang"]
  | markdown => []
  | shell => ["shell"]

/-- The language a user names: blank space around it and letter case do not matter. -/
def parse? (s : String) : Option Language :=
  let name := String.ofList (Text.asciiLower (Text.trim s.toList))
  (all.find? fun l => l.aliases.contains name).or (ofExtension? name)

/-- A name that stands for no language. -/
structure Unsupported where
  name : String
  deriving DecidableEq, Repr

def Unsupported.message (u : Unsupported) : String :=
  "unsupported language: " ++ u.name

def parse (s : String) : Except Unsupported Language :=
  (parse? s).elim (.error ⟨s⟩) .ok

/-- Words that open the declaration which a comment above it documents. -/
def ownerKeywords : Language → List String
  | javascript | typescript =>
    ["export", "function", "class", "const", "let", "var", "async", "interface", "type", "enum",
      "abstract", "declare", "namespace", "module"]
  | python => ["def", "class", "async"]
  | ruby => ["def", "class", "module", "attr_reader", "attr_writer", "attr_accessor"]
  | rust =>
    ["fn", "pub", "struct", "enum", "trait", "impl", "mod", "type", "const", "static", "unsafe",
      "async", "extern", "union", "macro_rules!"]
  | go => ["func", "type", "var", "const"]
  | markdown | shell => []

/-- Whether a character ends the first word of a declaration. -/
def endsOwnerWord (c : Char) : Bool :=
  Text.isBlank c || c == '(' || c == '{' || c == '<'

/-- Words that may stand before a Ruby declaration on its line. -/
def visibilityWords : List String :=
  ["private", "protected", "public"]

/-- The word that decides whether a line opens a declaration. -/
def ownerWord (l : Language) (line : List Char) : List Char :=
  let trimmed := Text.trimStart line
  let word := trimmed.takeWhile fun c => !endsOwnerWord c
  if l = .ruby ∧ visibilityWords.contains (String.ofList word) then
    (Text.words (trimmed.drop word.length)).headD []
  else word

/-- Whether the line opens a declaration. -/
def isOwnerLine (l : Language) (line : List Char) : Bool :=
  l.ownerKeywords.contains (String.ofList (l.ownerWord line))

end Language
end Waymark
