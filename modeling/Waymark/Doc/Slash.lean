import Waymark.Doc.Basic
import Waymark.Preamble.Attribute

/-! Doc comments made of lines that begin with `///` or `//!`, as Rust writes them. -/
namespace Waymark
namespace Doc
namespace Slash

open Text

/-- Outer comments document what follows them, inner ones what holds them. -/
inductive Marker where
  | outer
  | inner
  deriving DecidableEq, Repr

def Marker.text : Marker → List Char
  | outer => "///".toList
  | inner => "//!".toList

def Marker.format : Marker → Format
  | outer => .rustOuter
  | inner => .rustInner

/-- The marker of a line; four slashes open an ordinary comment. -/
def marker? (line : List Char) : Option Marker :=
  let t := trimStart line
  if Marker.inner.text.isPrefixOf t then some .inner
  else if Marker.outer.text.isPrefixOf t && !"////".toList.isPrefixOf t then some .outer
  else none

/-- Whether the lines hold only blank lines, line comments and inner attributes. The scan is that
of an attribute that began on an earlier line. -/
def isPreambleFrom : Option Preamble.BracketScan → List (List Char) → Bool
  | _, [] => true
  | some s, l :: ls => isPreambleFrom (s.feed l).unfinished? ls
  | none, l :: ls =>
    if Preamble.isInnerAttribute l then
      isPreambleFrom (Preamble.BracketScan.start.feed l).unfinished? ls
    else
      let t := trim l
      (t.isEmpty || "//".toList.isPrefixOf t) && isPreambleFrom none ls

def isPreamble (before : List (List Char)) : Bool :=
  isPreambleFrom none before

/-- Whether the first line that is no attribute opens a declaration. -/
def isOwned (after : List (List Char)) : Bool :=
  (after.find? fun l => !"#[".toList.isPrefixOf (trimStart l)).any Language.rust.isOwnerLine

/-- A line of the comment without its marker. -/
def undecorate (m : Marker) (line : List Char) : List Char :=
  dropSpace ((trimStart line).drop m.text.length)

def kind (m : Marker) (before after : List (List Char)) : Kind :=
  match m with
  | .inner => .file
  | .outer => if !isOwned after && isPreamble before then .file else .function

def extract (text : List Char) : Option Comment :=
  let (before, rest) := (rawLines text).span fun l => (marker? l.body).isNone
  match rest.head?.bind fun l => marker? l.body with
  | none => none
  | some m =>
    let (block, after) := rest.span fun l => marker? l.body == some m
    some
      { language := .rust
        kind := kind m (before.map Line.body) (after.map Line.body)
        format := m.format
        raw := joinRaw block
        content := normalize (block.map fun l => undecorate m l.body)
        startLine := before.length + 1
        endLine := before.length + block.length }

end Slash
end Doc
end Waymark
