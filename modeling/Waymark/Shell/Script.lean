import Waymark.Shell.Lexeme

/-! Shell scripts: simple commands with redirections, joined by separators and pipes. -/
namespace Waymark
namespace Shell

/-- Where a stream leads. -/
inductive Target where
  | output
  | errors
  | nowhere
  deriving DecidableEq, Repr

/-- A change of where a stream leads. -/
inductive Redirection where
  | discard (stream : Nat)
  | duplicate (stream source : Nat)
  | noInput
  deriving DecidableEq, Repr

structure Simple where
  words : List Word
  redirections : List Redirection
  deriving DecidableEq, Repr

/-- When a pipeline runs: always, or depending on the status of the one before. -/
inductive Joint where
  | always
  | onSuccess
  | onFailure
  deriving DecidableEq, Repr

structure Step where
  joint : Joint
  pipeline : List Simple
  deriving DecidableEq, Repr

/-- The text of a word without variables. -/
def literal? (w : Word) : Option String :=
  (w.mapM fun
    | Part.text c => some c
    | Part.variable _ => none).map String.ofList

/-- Reads a simple command up to the next operator that ends it. -/
def simple (words : List Word) (redirections : List Redirection) :
    List Lexeme → Option (Simple × List Lexeme)
  | .word w :: rest => simple (words ++ [w]) redirections rest
  | .redirect n :: .word w :: rest =>
    if literal? w = some "/dev/null" then simple words (redirections ++ [.discard n]) rest
    else none
  | .duplicate n :: .word w :: rest =>
    match literal? w with
    | some "1" => simple words (redirections ++ [.duplicate n 1]) rest
    | some "2" => simple words (redirections ++ [.duplicate n 2]) rest
    | _ => none
  | .input :: .word w :: rest =>
    if literal? w = some "/dev/null" then simple words (redirections ++ [.noInput]) rest else none
  | .redirect _ :: _ | .duplicate _ :: _ | .input :: _ => none
  | rest => some (⟨words, redirections⟩, rest)

/-- Reads the commands of a script. -/
def steps : (fuel : Nat) → Joint → List Simple → List Lexeme → Option (List Step)
  | 0, _, _, _ => none
  | fuel + 1, joint, before, ls => do
    let (command, rest) ← simple [] [] ls
    let blank := command.words.isEmpty && command.redirections.isEmpty
    let pipeline := before ++ [command]
    match rest with
    | [] =>
      if blank then if joint = .always && before.isEmpty then some [] else none
      else some [⟨joint, pipeline⟩]
    | .separator :: more =>
      if blank then
        if joint = .always && before.isEmpty then steps fuel .always [] more else none
      else return ⟨joint, pipeline⟩ :: (← steps fuel .always [] more)
    | .pipe :: more => if blank then none else steps fuel joint pipeline more
    | .andThen :: more =>
      if blank then none else return ⟨joint, pipeline⟩ :: (← steps fuel .onSuccess [] more)
    | .orElse :: more =>
      if blank then none else return ⟨joint, pipeline⟩ :: (← steps fuel .onFailure [] more)
    | _ => none

def parse? (script : String) : Option (List Step) :=
  (lex .bare none script.toList).bind fun ls => steps (ls.length + 1) .always [] ls

end Shell
end Waymark
