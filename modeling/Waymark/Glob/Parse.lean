import Waymark.Glob.Basic

/-! Reading glob patterns. -/
namespace Waymark
namespace Glob

inductive Fault where
  | unclosedClass
  | invalidRange (first last : Char)
  | danglingEscape
  | unclosedGroup
  | unopenedGroup
  deriving DecidableEq, Repr

def Fault.message : Fault → String
  | unclosedClass => "unclosed character class; missing ']'"
  | invalidRange first last =>
    "invalid range; '" ++ first.toString ++ "' > '" ++ last.toString ++ "'"
  | danglingEscape => "dangling '\\'"
  | unclosedGroup =>
    "unclosed alternate group; missing '\x7d' (maybe escape '\x7b' with '[\x7b]'?)"
  | unopenedGroup =>
    "unopened alternate group; missing '\x7b' (maybe escape '\x7d' with '[\x7d]'?)"

/-- Puts a character at the right end of the newest range. -/
def extendRange (c : Char) : List (Char × Char) → Except Fault (List (Char × Char))
  | (first, _) :: ranges =>
    if c < first then .error (.invalidRange first c) else .ok ((first, c) :: ranges)
  | [] => .ok []

/-- Reads a class up to the bracket that closes it, ranges newest first. `pending` tells whether a
dash waits for the right end of a range. -/
def classTail (pending : Bool) (ranges : List (Char × Char)) :
    List Char → Except Fault (List (Char × Char) × List Char)
  | [] => .error .unclosedClass
  | c :: rest =>
    if c = ']' then .ok (if pending then ('-', '-') :: ranges else ranges, rest)
    else if pending then
      match extendRange c ranges with
      | .error e => .error e
      | .ok more => classTail false more rest
    else if c = '-' then classTail true ranges rest
    else classTail false ((c, c) :: ranges) rest

/-- Reads a class after its opening bracket. A bracket or a dash that comes first stands for
itself. -/
def classBody (cs : List Char) : Except Fault (Token × List Char) :=
  let negated := cs.head?.any fun c => c = '!' || c = '^'
  match if negated then cs.drop 1 else cs with
  | [] => .error .unclosedClass
  | c :: rest =>
    (classTail false [(c, c)] rest).map fun (ranges, after) =>
      (.oneOf negated ranges.reverse, after)

theorem classTail_length {pending : Bool} {ranges out : List (Char × Char)}
    {cs rest : List Char} (h : classTail pending ranges cs = .ok (out, rest)) :
    rest.length < cs.length := by
  induction cs generalizing pending ranges with
  | nil => simp [classTail] at h
  | cons c cs ih =>
    simp only [classTail] at h
    repeat' split at h
    all_goals first
      | (simp only [Except.ok.injEq, Prod.mk.injEq] at h; simp [h.2])
      | (have hl := ih h; simp; omega)
      | simp at h

theorem classBody_length {t : Token} {cs rest : List Char} (h : classBody cs = .ok (t, rest)) :
    rest.length ≤ cs.length := by
  simp only [classBody] at h
  split at h
  · simp at h
  · rename_i c tail hc
    have hl : (c :: tail).length ≤ cs.length := by
      rw [← hc]
      split
      · simp
      · exact Nat.le_refl _
    cases ht : classTail false [(c, c)] tail with
    | error e => simp [ht, Except.map] at h
    | ok p =>
      simp only [ht, Except.map, Except.ok.injEq, Prod.mk.injEq] at h
      have := classTail_length ht
      simp only [← h.2, List.length_cons] at *
      omega

/-- A group that is still open: the tokens before it and its branches so far, newest first. -/
structure OpenGroup where
  before : List Token
  branches : List (List Token)
  deriving Repr

/-- Where the reader stands: the newest tokens first, the open groups around them, and the
character just read. -/
structure State where
  tokens : List Token
  outer : List OpenGroup
  previous : Option Char
  deriving Repr

namespace State

def start : State :=
  ⟨[], [], none⟩

/-- Adds a token that ends with the character `c`. -/
def push (s : State) (t : Token) (c : Char) : State :=
  { s with tokens := t :: s.tokens, previous := some c }

/-- Puts a run of directories in the place of the slash before it. Two runs in a row are one. -/
def pushDirectories (s : State) (t : Token) (c : Char) : State :=
  match s.tokens with
  | .leading :: _ | .inside :: _ => { s with previous := some c }
  | _ :: tokens => { s with tokens := t :: tokens, previous := some c }
  | [] => s.push t c

/-- Whether two stars can stand for directories after the character just read. -/
def afterBoundary (s : State) : Bool :=
  s.previous = some '/' ||
    (!s.outer.isEmpty && (s.previous = some ',' || s.previous = some '{'))

/-- Reads the second of two stars, which stand for directories when they are a whole component. -/
def secondStar (s : State) (rest : List Char) : State × List Char :=
  let plain := ((s.push .star '*').push .star '*', rest)
  if s.tokens.isEmpty then
    match rest with
    | [] => (s.push .leading '*', [])
    | c :: tail => if c = '/' then (s.push .leading '/', tail) else plain
  else if s.afterBoundary then
    match rest with
    | [] => (s.pushDirectories .inside '*', [])
    | c :: tail =>
      if c = '/' then (s.pushDirectories .between '/', tail)
      else if (c = ',' || c = '}') && !s.outer.isEmpty then (s.pushDirectories .inside '*', rest)
      else plain
  else plain

theorem secondStar_length (s : State) (rest : List Char) :
    (s.secondStar rest).2.length ≤ rest.length := by
  unfold secondStar
  repeat' split
  all_goals simp

def openGroup (s : State) : State :=
  ⟨[], ⟨s.tokens, []⟩ :: s.outer, some '{'⟩

def nextBranch (s : State) : State :=
  match s.outer with
  | [] => s.push (.literal ',') ','
  | g :: outer => ⟨[], ⟨g.before, s.tokens.reverse :: g.branches⟩ :: outer, some ','⟩

def closeGroup? (s : State) : Option State :=
  match s.outer with
  | [] => none
  | g :: outer =>
    some ⟨.group (s.tokens.reverse :: g.branches).reverse :: g.before, outer, some '}'⟩

end State

/-- Reads the rest of a pattern. -/
def parseFrom (s : State) (cs : List Char) : Except Fault (List Token) :=
  match cs with
  | [] => if s.outer.isEmpty then .ok s.tokens.reverse else .error .unclosedGroup
  | c :: rest =>
    if c = '?' then parseFrom (s.push .any c) rest
    else if c = '*' then
      match rest with
      | [] => parseFrom (s.push .star c) []
      | d :: tail =>
        if d = '*' then
          have := s.secondStar_length tail
          parseFrom (s.secondStar tail).1 (s.secondStar tail).2
        else parseFrom (s.push .star c) (d :: tail)
    else if c = '[' then
      match h : classBody rest with
      | .error e => .error e
      | .ok (t, after) =>
        have := classBody_length h
        parseFrom (s.push t ']') after
    else if c = '{' then parseFrom s.openGroup rest
    else if c = '}' then
      match s.closeGroup? with
      | none => .error .unopenedGroup
      | some closed => parseFrom closed rest
    else if c = ',' then parseFrom s.nextBranch rest
    else if c = '\\' then
      match rest with
      | [] => .error .danglingEscape
      | d :: tail => parseFrom (s.push (.literal d) d) tail
    else parseFrom (s.push (.literal c) c) rest
termination_by cs.length
decreasing_by all_goals simp only [List.length_cons]; omega

/-- A pattern that could not be read. -/
structure ParseError where
  pattern : String
  fault : Fault
  deriving DecidableEq, Repr

def ParseError.message (e : ParseError) : String :=
  "error parsing glob '" ++ e.pattern ++ "': " ++ e.fault.message

def parse (pattern : String) : Except ParseError (List Token) :=
  (parseFrom .start pattern.toList).mapError fun f => ⟨pattern, f⟩

/-- Whether a pattern can be read and matches the path. -/
def accepts (pattern path : String) : Bool :=
  match parse pattern with
  | .ok tokens => isMatch tokens (Text.bytes path.toList)
  | .error _ => false

end Glob
end Waymark
