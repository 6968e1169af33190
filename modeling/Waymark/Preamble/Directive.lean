import Waymark.Language
import Waymark.Text.Search
import Waymark.Text.Word

/-! Lines that belong to the head of a file because a compiler or interpreter reads them there. -/
namespace Waymark
namespace Preamble

open Text

/-- An interpreter line. A Rust inner attribute begins alike and is none. -/
def isShebang (line : List Char) : Bool :=
  "#!".toList.isPrefixOf line && !"#![".toList.isPrefixOf line

/-- Whether one of the words opens the text and is not continued by a word character. -/
def opensWithWord (ws : List String) (cs : List Char) : Bool :=
  ws.any fun w => (after? w.toList cs).any endsWord

/-- What follows one of the words at the head of the text, if that satisfies `p`. -/
def followsWord (ws : List String) (p : List Char → Bool) (cs : List Char) : Bool :=
  ws.any fun w => (after? w.toList cs).any p

/-- A triple-slash reference such as `/// <reference path="x" />`. -/
def isReference (line : List Char) : Bool :=
  (after? "///".toList (trimStart line)).any fun rest =>
    (after? ['<'] (trimStart rest)).any
      (opensWithWord ["reference", "amd-module", "amd-dependency"])

def typeCheckWords : List String :=
  ["@ts-check", "@ts-nocheck"]

/-- A type-check switch in a line comment. -/
def isLineSwitch (line : List Char) : Bool :=
  (after? "//".toList (trimStart line)).any fun rest => opensWithWord typeCheckWords (trimStart rest)

/-- A type-check switch in a block comment with nothing after it. -/
def isBlockSwitch (line : List Char) : Bool :=
  (after? "/*".toList (trimStart line)).any fun rest =>
    followsWord typeCheckWords
      (fun tail => (after? "*/".toList (trimStart tail)).any isBlankText) (trimStart rest)

/-- What may stand between a directive prologue and the end of its line. -/
def isStatementEnd (cs : List Char) : Bool :=
  match trimStart cs with
  | ';' :: rest => isBlankText rest
  | rest => rest.isEmpty

/-- A directive prologue such as `'use strict';`. -/
def isPrologue (line : List Char) : Bool :=
  followsWord
    ["\"use strict\"", "\"use client\"", "\"use server\"",
      "'use strict'", "'use client'", "'use server'"]
    isStatementEnd (trimStart line)

def isScriptDirective (line : List Char) : Bool :=
  isReference line || isLineSwitch line || isBlockSwitch line || isPrologue line

def isEncodingChar (c : Char) : Bool :=
  c == '-' || c == '_' || c == '.' || c.isAlphanum

/-- Whether `coding:` or `coding=` with the name of an encoding opens the text. -/
def opensWithCoding (cs : List Char) : Bool :=
  match after? "coding".toList cs with
  | some (c :: rest) =>
    (c == ':' || c == '=') &&
      ((rest.dropWhile fun b => b == ' ' || b == '\t').head?.any isEncodingChar)
  | _ => false

/-- Whether an encoding is named before the first newline. -/
def namesCoding : List Char → Bool
  | [] => false
  | c :: cs => opensWithCoding (c :: cs) || (c != '\n' && namesCoding cs)

/-- A Python encoding declaration. -/
def isEncoding (line : List Char) : Bool :=
  match line.dropWhile fun c => c == ' ' || c == '\t' || c == '\x0c' with
  | '#' :: rest => namesCoding rest
  | _ => false

/-- Keys of Ruby magic comments. Letters stand for both cases and `_` also for `-`. -/
def magicKeys : List String :=
  ["frozen_string_literal", "encoding", "coding", "warn_indent", "shareable_constant_value",
    "typed"]

/-- The lower-case letter that a character equals up to simple case folding. -/
def foldLetter (c : Char) : Char :=
  if c.toNat == 0x17F then 's' else if c.toNat == 0x212A then 'k' else c.toLower

def matchesKeyChar (k c : Char) : Bool :=
  if k == '_' then c == '_' || c == '-' else foldLetter c == k

/-- What follows a magic key at the head of the text. -/
def afterKey? : List Char → List Char → Option (List Char)
  | [], cs => some cs
  | _ :: _, [] => none
  | k :: ks, c :: cs => if matchesKeyChar k c then afterKey? ks cs else none

/-- A Ruby magic comment such as `# frozen_string_literal: true`. -/
def isMagicComment (line : List Char) : Bool :=
  match trimStart line with
  | '#' :: rest =>
    let rest := trimStart rest
    let body := ((after? "-*-".toList rest).map trimStart).getD rest
    magicKeys.any fun key => (afterKey? key.toList body).any fun tail =>
      (trimStart tail).head?.any fun c => c == ':' || c == '='
  | _ => false

/-- The first line of a Rust inner attribute. -/
def isInnerAttribute (line : List Char) : Bool :=
  "#![".toList.isPrefixOf (trimStart line)

/-- A Go build constraint in the new or the old form. -/
def isBuildTag (line : List Char) : Bool :=
  (after? "//".toList (trimStart line)).any fun rest =>
    opensWithWord ["go:build"] rest || opensWithWord ["+build"] (trimStart rest)

/-- Whether the line is a directive of the language. -/
def isDirective : Language → List Char → Bool
  | .javascript, line | .typescript, line => isScriptDirective line
  | .python, line => isEncoding line
  | .ruby, line => isMagicComment line
  | .rust, line => isInnerAttribute line
  | .go, line => isBuildTag line
  | .markdown, _ | .shell, _ => false

end Preamble
end Waymark
