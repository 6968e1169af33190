import Waymark.Text.Bytes

/-! Glob patterns, and the paths they match byte by byte. -/
namespace Waymark
namespace Glob

inductive Token where
  | literal (c : Char)
  /-- One byte. -/
  | any
  /-- Any bytes, slashes among them. -/
  | star
  /-- Any number of directories at the head of the path. -/
  | leading
  /-- Everything below a directory. -/
  | inside
  /-- One slash, or directories between two slashes. -/
  | between
  /-- One byte of a class, or one that is not in it. -/
  | oneOf (negated : Bool) (ranges : List (Char × Char))
  /-- One of several patterns. -/
  | group (branches : List (List Token))
  deriving Repr

def slash : UInt8 :=
  47

/-- All final segments of a list, the list itself and the empty one among them. -/
def suffixes : List UInt8 → List (List UInt8)
  | [] => [[]]
  | b :: bs => (b :: bs) :: suffixes bs

/-- What follows a slash at the head. -/
def afterSlash? : List UInt8 → Option (List UInt8)
  | b :: bs => if b = slash then some bs else none
  | [] => none

/-- What follows each slash. -/
def afterSlashes (bs : List UInt8) : List (List UInt8) :=
  (suffixes bs).filterMap afterSlash?

/-- The spans of bytes in a class. A character of several bytes adds each of them, and a range runs
from the last byte of its first character to the first byte of its last one. -/
def byteSpans (range : Char × Char) : List (UInt8 × UInt8) :=
  let single (b : UInt8) := (b, b)
  let first := String.utf8EncodeChar range.1
  let last := String.utf8EncodeChar range.2
  if range.1 = range.2 then first.map single
  else
    match first.getLast?, last.head? with
    | some a, some b => first.dropLast.map single ++ [(a, b)] ++ (last.drop 1).map single
    | _, _ => []

def inClass (ranges : List (Char × Char)) (b : UInt8) : Bool :=
  (ranges.flatMap byteSpans).any fun (lo, hi) => lo ≤ b && b ≤ hi

mutual

/-- Whether a token stands for nothing: a group without any branch that says something. -/
def Token.isVoid : Token → Bool
  | .group branches => branchesVoid branches
  | _ => false

def tokensVoid : List Token → Bool
  | [] => true
  | t :: ts => t.isVoid && tokensVoid ts

def branchesVoid : List (List Token) → Bool
  | [] => true
  | b :: bs => tokensVoid b && branchesVoid bs

end

mutual

/-- What can be left of a path after a token has taken its part from the head. -/
def Token.rests : Token → List UInt8 → List (List UInt8)
  | .literal c, path => ((String.utf8EncodeChar c).isPrefixOf? path).toList
  | .any, path => path.tail?.toList
  | .star, path => suffixes path
  | .leading, path => path :: afterSlashes path
  | .inside, path => (afterSlash? path).toList.flatMap suffixes
  | .between, path => (afterSlash? path).toList.flatMap fun rest => rest :: afterSlashes rest
  | .oneOf negated ranges, path =>
    match path with
    | [] => []
    | b :: rest => if inClass ranges b = negated then [] else [rest]
  | .group branches, path =>
    if branchesVoid branches then [path] else branchesRests branches path

/-- What can be left of one of several paths after a sequence of tokens. -/
def tokensRests : List Token → List (List UInt8) → List (List UInt8)
  | [], paths => paths
  | t :: ts, paths => tokensRests ts (paths.flatMap t.rests).eraseDups

/-- What can be left of a path after one of the branches; a branch that says nothing is left out. -/
def branchesRests : List (List Token) → List UInt8 → List (List UInt8)
  | [], _ => []
  | b :: bs, path => (if tokensVoid b then [] else tokensRests b [path]) ++ branchesRests bs path

end

/-- Whether the tokens match the whole path. Directories at the head, when nothing follows them,
match every path. -/
def isMatch : List Token → List UInt8 → Bool
  | [.leading], _ => true
  | tokens, path => (tokensRests tokens [path]).any List.isEmpty

end Glob
end Waymark
