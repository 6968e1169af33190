import Waymark.Grammar.Basic
import Waymark.Preamble.Basic

/-! The line at which a file summary can be inserted. -/
namespace Waymark

inductive UnsafeReason where
  | unsupportedLanguage
  | existingSummary
  | unterminatedFrontMatter
  | grammarFailure
  deriving DecidableEq, Repr

namespace UnsafeReason

def name : UnsafeReason → String
  | unsupportedLanguage => "unsupported-language"
  | existingSummary => "existing-summary"
  | unterminatedFrontMatter => "unterminated-front-matter"
  | grammarFailure => "grammar-failure"

def message : UnsafeReason → String
  | unsupportedLanguage => "unsupported language"
  | existingSummary => "file already has a tldr waymark"
  | unterminatedFrontMatter => "front matter is never closed"
  | grammarFailure => "existing waymarks could not be parsed"

end UnsafeReason

inductive InsertionPoint where
  | line (number : Nat)
  | refused (reason : UnsafeReason)
  deriving DecidableEq, Repr

namespace InsertionPoint

def line? : InsertionPoint → Option Nat
  | line n => some n
  | refused _ => none

def reason? : InsertionPoint → Option UnsafeReason
  | line _ => none
  | refused r => some r

def toJson : InsertionPoint → Json
  | line n => .obj [("status", .str "line"), ("line", .nat n)]
  | refused r => .obj [("status", .str "unsafe"), ("reason", .str r.name)]

/-- The first line after the preamble, unless a summary is there already or cannot be ruled out. -/
def find (g : Grammar) (language : Option Language) (source file : String) : InsertionPoint :=
  match language with
  | none => refused .unsupportedLanguage
  | some l =>
    match g.containsMarker source file summaryMarker with
    | .error _ => refused .grammarFailure
    | .ok true => refused .existingSummary
    | .ok false =>
      match Preamble.endOfText source.toList l with
      | some n => line (n + 1)
      | none => refused .unterminatedFrontMatter

end InsertionPoint
end Waymark
