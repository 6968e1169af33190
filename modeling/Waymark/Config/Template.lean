/-! Config files to start from. -/
namespace Waymark

structure Template where
  name : String
  description : String
  lines : List String
  deriving DecidableEq, Repr

namespace Template

/-- The text of the config file. -/
def text (t : Template) : String :=
  String.join (t.lines.map (· ++ "\n"))

def defaultLines : List String :=
  ["# waymark configuration",
    "#",
    "# Errors (duplicate canonicals, dangling relations, multiple tldrs) fail a",
    "# check. Warnings (misplaced tldrs, flagged waymarks) are reported only.",
    "",
    "strict: false",
    "",
    "tldr:",
    "  # A tldr below this line is reported as misplaced.",
    "  max_line: 20",
    "  # Markdown gets more room for front matter and a title.",
    "  max_line_markdown: 50",
    "",
    "signals:",
    "  # Characters of a flagged waymark shown in its hint.",
    "  preview_length: 50",
    "",
    "grammar:",
    "  # Program that reads source on stdin and prints a JSON array of waymark",
    "  # records. The scanned path is passed in $WAYMARK_FILE.",
    "  command: [\"waymark-parse\", \"--json\"]",
    "",
    "excluded_paths:",
    "  - \"**/vendor/**\"",
    "  - \"**/node_modules/**\"",
    "",
    "include_hidden: false"]

def strictLines : List String :=
  ["# waymark configuration (strict)",
    "#",
    "# Any issue fails a check, warnings included. Suited to CI on protected",
    "# branches where flagged waymarks must not be merged.",
    "",
    "strict: true",
    "",
    "tldr:",
    "  max_line: 10",
    "  max_line_markdown: 30",
    "",
    "signals:",
    "  preview_length: 50",
    "",
    "grammar:",
    "  command: [\"waymark-parse\", \"--json\"]",
    "",
    "excluded_paths:",
    "  - \"**/vendor/**\"",
    "  - \"**/node_modules/**\"",
    "  - \"**/generated/**\"",
    "",
    "include_hidden: false"]

def all : List Template :=
  [⟨"default", "Errors fail the check, warnings are reported", defaultLines⟩,
    ⟨"strict", "Any issue fails the check, for CI gates", strictLines⟩]

def find? (name : String) : Option Template :=
  all.find? fun t => t.name = name

end Template
end Waymark
