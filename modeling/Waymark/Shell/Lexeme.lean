/-! The words and operators of shell scripts. -/
namespace Waymark
namespace Shell

/-- A part of a word: characters that stand for themselves, or the value of a variable. -/
inductive Part where
  | text (c : Char)
  | variable (name : String)
  deriving DecidableEq, Repr

abbrev Word := List Part

inductive Lexeme where
  | word (parts : Word)
  /-- The end of a command. -/
  | separator
  | andThen
  | orElse
  | pipe
  /-- A redirection of a stream, written before its destination. -/
  | redirect (stream : Nat)
  /-- A redirection to another stream. -/
  | duplicate (stream : Nat)
  | input
  deriving DecidableEq, Repr

/-- Where the reader of a script stands. -/
inductive Mode where
  | bare
  | single
  | double
  | escape (inQuotes : Bool)
  /-- Inside the name of a variable. -/
  | name (inQuotes braced : Bool) (letters : List Char)
  | comment
  deriving DecidableEq, Repr

def isNameChar (c : Char) : Bool :=
  c.isAlphanum || c == '_'

/-- Characters that a backslash between double quotes takes the meaning of. -/
def isQuotedSpecial (c : Char) : Bool :=
  c == '"' || c == '\\' || c == '$' || c == '`'

def flush (word : Option Word) (rest : List Lexeme) : List Lexeme :=
  match word with
  | some parts => .word parts :: rest
  | none => rest

/-- The stream that a number in front of a redirection names. -/
def stream (word : Option Word) (fallback : Nat) : Nat :=
  match word with
  | some [.text c] => if c.isDigit then c.toNat - '0'.toNat else fallback
  | _ => fallback

/-- The word before a redirection, unless it is the number of a stream. -/
def unlessStream (word : Option Word) : Option Word :=
  match word with
  | some [.text c] => if c.isDigit then none else word
  | _ => word

def add (word : Option Word) (p : Part) : Option Word :=
  some (word.getD [] ++ [p])

/-- Divides a script into words and operators. -/
def lex (mode : Mode) (word : Option Word) : List Char → Option (List Lexeme)
  | [] =>
    match mode with
    | .bare | .comment => some (flush word [])
    | .name false false letters =>
      some (flush (add word (.variable (String.ofList letters.reverse))) [])
    | _ => none
  | c :: cs =>
    match mode with
    | .comment =>
      if c == '\n' then (lex .bare none cs).map (.separator :: ·) else lex .comment none cs
    | .single => if c == '\'' then lex .bare word cs else lex .single (add word (.text c)) cs
    | .escape false =>
      if c == '\n' then lex .bare word cs else lex .bare (add word (.text c)) cs
    | .escape true =>
      if c == '\n' then lex .double word cs
      else if isQuotedSpecial c then lex .double (add word (.text c)) cs
      else lex .double (add (add word (.text '\\')) (.text c)) cs
    | .name inQuotes true letters =>
      if c == '}' then
        lex (if inQuotes then .double else .bare)
          (add word (.variable (String.ofList letters.reverse))) cs
      else lex (.name inQuotes true (c :: letters)) word cs
    | .double =>
      if c == '"' then lex .bare word cs
      else if c == '\\' then lex (.escape true) word cs
      else if c == '$' then dollar true word cs
      else lex .double (add word (.text c)) cs
    | .bare => bare word c cs
    | .name inQuotes false letters =>
      if isNameChar c then lex (.name inQuotes false (c :: letters)) word cs
      else
        let named := add word (.variable (String.ofList letters.reverse))
        if inQuotes then
          if c == '"' then lex .bare named cs
          else if c == '\\' then lex (.escape true) named cs
          else if c == '$' then dollar true named cs
          else lex .double (add named (.text c)) cs
        else bare named c cs
termination_by cs => (cs.length, 0)
where
  /-- Reads on after a dollar sign. -/
  dollar (inQuotes : Bool) (word : Option Word) (cs : List Char) : Option (List Lexeme) :=
    let back : Mode := if inQuotes then .double else .bare
    match cs with
    | '{' :: rest => lex (.name inQuotes true []) word rest
    | '?' :: rest => lex back (add word (.variable "?")) rest
    | '$' :: rest => lex back (add word (.variable "$")) rest
    | c :: rest =>
      if isNameChar c then lex (.name inQuotes false [c]) word rest
      else lex back (add word (.text '$')) (c :: rest)
    | [] => lex back (add word (.text '$')) []
  termination_by (cs.length, 1)
  /-- Reads on at a character outside quotes. -/
  bare (word : Option Word) (c : Char) (cs : List Char) : Option (List Lexeme) :=
    if c == ' ' || c == '\t' then (lex .bare none cs).map (flush word)
    else if c == '\n' || c == ';' then
      (lex .bare none cs).map fun rest => flush word (.separator :: rest)
    else if c == '\'' then lex .single (some (word.getD [])) cs
    else if c == '"' then lex .double (some (word.getD [])) cs
    else if c == '\\' then lex (.escape false) word cs
    else if c == '#' && word.isNone then lex .comment none cs
    else if c == '$' then dollar false word cs
    else
      match c, cs with
      | '&', '&' :: rest => (lex .bare none rest).map fun r => flush word (.andThen :: r)
      | '|', '|' :: rest => (lex .bare none rest).map fun r => flush word (.orElse :: r)
      | '|', more => (lex .bare none more).map fun r => flush word (.pipe :: r)
      | '>', '&' :: rest =>
        (lex .bare none rest).map fun r => flush (unlessStream word) (.duplicate (stream word 1) :: r)
      | '>', more =>
        (lex .bare none more).map fun r => flush (unlessStream word) (.redirect (stream word 1) :: r)
      | '<', more => (lex .bare none more).map fun r => flush (unlessStream word) (.input :: r)
      | '&', _ | '(', _ | ')', _ | '`', _ => none
      | d, more => lex .bare (add word (.text d)) more
  termination_by (cs.length, 2)

end Shell
end Waymark
