import Waymark.Grammar.Basic
import Waymark.Text.Lines

/-! The inline grammar: one waymark a line, with its marker before the sigil and its contents,
canonicals and relations after it. -/
namespace Waymark
namespace Inline

open Text

/-- A marker, with a star in front when the waymark is flagged. -/
def marker? (word : List Char) : Option (Bool × List Char) :=
  let (flagged, name) := match word with
    | '*' :: rest => (true, rest)
    | rest => (false, rest)
  if !name.isEmpty && name.all Char.isAlpha then some (flagged, name) else none

/-- What one word of the contents adds to a waymark. -/
inductive Part where
  | canonical (token : String)
  | relation (r : Relation)
  | prose (word : List Char)

def part (word : List Char) : Part :=
  match cut [':'] word with
  | some (key, target) =>
    if key = "ref".toList then .canonical (String.ofList target)
    else
      match RelationKind.ofName? (String.ofList key) with
      | some k => .relation ⟨k, String.ofList target⟩
      | none => .prose word
  | none => .prose word

/-- The contents after the sigil, without the end of an HTML comment. -/
def parts (tail : List Char) : List Part :=
  (words (trim (dropSuffixes "-->".toList (trim tail)))).map part

/-- The waymark on a line, or that it has no marker; a line without a sigil holds none. -/
def ofLine (file : String) (number : Nat) (line : List Char) :
    Except GrammarError (Option Record) :=
  match cut sigil.toList line with
  | none => .ok none
  | some (before, tail) =>
    match marker? ((words before).getLastD []) with
    | none =>
      .error (.malformed file ("line " ++ toString number ++ ": waymark without a marker"))
    | some (flagged, name) =>
      let ps := parts tail
      .ok (some
        { Record.new file number (String.ofList name) with
          signals := ⟨flagged, false⟩
          contents := String.ofList (joinWith ' ' (ps.filterMap fun
            | .prose w => some w
            | _ => none))
          relations := ps.filterMap fun
            | .relation r => some r
            | _ => none
          canonicals := ps.filterMap fun
            | .canonical c => some c
            | _ => none })

/-- Reads the lines from `number` on. -/
def ofLines (file : String) : Nat → List (List Char) → Except GrammarError (List Record)
  | _, [] => .ok []
  | number, l :: ls =>
    match ofLine file number l with
    | .error e => .error e
    | .ok found => (ofLines file (number + 1) ls).map fun rs => found.toList ++ rs

/-- The grammar of a whole text; the first waymark without a marker fails it. -/
def grammar : Grammar := fun source file =>
  ofLines file 1 (lines source.toList)

end Inline
end Waymark
