import Waymark.Text.Search

/-! Terminal styles. -/
namespace Waymark

inductive Style where
  | title
  | bold
  | dimmed
  | red
  | green
  | yellow
  | blue
  deriving DecidableEq, Repr

namespace Style

/-- The parameters of the control sequence that turns the style on. -/
def code : Style → String
  | title => "1;36"
  | bold => "1"
  | dimmed => "2"
  | red => "31"
  | green => "32"
  | yellow => "33"
  | blue => "34"

/-- The control sequence with these parameters. -/
def sequence (parameters : String) : String :=
  "\x1b[" ++ parameters ++ "m"

/-- The sequence that turns every style off. -/
def reset : List Char :=
  (sequence "0").toList

/-- Turns a style on again wherever the text turns all styles off. -/
def resume (on text : List Char) : List Char :=
  match _h : Text.cut reset text with
  | some (before, after) => before ++ reset ++ on ++ resume on after
  | none => text
termination_by text.length
decreasing_by exact Text.cut_length_lt (by decide) _h

/-- The text between the codes that turn the style on and off, or plain without colour. -/
def paint (color : Bool) (s : Style) (text : String) : String :=
  if color then
    let on := (sequence s.code).toList
    String.ofList (on ++ resume on text.toList ++ reset)
  else text

end Style
end Waymark
