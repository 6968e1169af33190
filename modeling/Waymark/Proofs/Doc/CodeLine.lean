import Mathlib.Tactic.Common
import Waymark.Doc.Literal

/-! Lines of Python as they are written: characters, strings between quotation marks, and a comment
at the end. The scan that cuts off the comment keeps the open quotation mark and whether a backslash
came just before; it ends every string where it is closed, so it cuts at the `#` of the comment and
at no other. -/
namespace Waymark
namespace Doc
namespace Literal

/-- A part of a string: a character that stands for itself, or any character behind a backslash. -/
inductive QuotedPart (quote : Char) where
  | plain (c : Char) (h : c ≠ quote ∧ c ≠ '\\')
  | escape (c : Char)

/-- A part of the code on a line: a character that begins neither a string nor a comment, or a
string between two quotation marks of one kind. -/
inductive CodePart where
  | plain (c : Char) (h : c ≠ '"' ∧ c ≠ '\'' ∧ c ≠ '#')
  | quoted (quote : Char) (h : quote = '"' ∨ quote = '\'') (parts : List (QuotedPart quote))

/-- A line in parts. -/
structure CodeLine where
  parts : List CodePart
  comment : Option (List Char)

def QuotedPart.text {quote : Char} : QuotedPart quote → List Char
  | plain c _ => [c]
  | escape c => ['\\', c]

def CodePart.text : CodePart → List Char
  | plain c _ => [c]
  | quoted quote _ parts => quote :: parts.flatMap QuotedPart.text ++ [quote]

namespace CodeLine

/-- The part of the line before its comment. -/
def code (line : CodeLine) : List Char :=
  line.parts.flatMap CodePart.text

def text (line : CodeLine) : List Char :=
  line.code ++ line.comment.elim [] ('#' :: ·)

end CodeLine

section Scan

/-- The scan keeps a text and is behind it where it was before, whatever follows. -/
def Keeps (quote : Option Char) (w : List Char) : Prop :=
  ∀ rest, stripCommentFrom quote false (w ++ rest) = w ++ stripCommentFrom quote false rest

lemma keeps_flatMap {α : Type} {quote : Option Char} {f : α → List Char}
    (h : ∀ a, Keeps quote (f a)) (as : List α) : Keeps quote (as.flatMap f) := by
  induction as with
  | nil => exact fun _ => rfl
  | cons a as ih =>
    intro rest
    rw [List.flatMap_cons, List.append_assoc, h, ih, List.append_assoc]

/-- A quotation mark behind a backslash does not close the string. -/
lemma keeps_quotedPart {quote : Char} (part : QuotedPart quote) : Keeps (some quote) part.text := by
  intro rest
  cases part with
  | plain c h => simp [QuotedPart.text, stripCommentFrom, h.1, h.2]
  | escape c => simp [QuotedPart.text, stripCommentFrom]

lemma stripCommentFrom_open {quote : Char} (h : quote = '"' ∨ quote = '\'') (cs : List Char) :
    stripCommentFrom none false (quote :: cs) =
      quote :: stripCommentFrom (some quote) false cs := by
  simp [stripCommentFrom, h]

lemma stripCommentFrom_close {quote : Char} (h : quote = '"' ∨ quote = '\'') (cs : List Char) :
    stripCommentFrom (some quote) false (quote :: cs) =
      quote :: stripCommentFrom none false cs := by
  have hne : quote ≠ '\\' := by rcases h with rfl | rfl <;> decide
  simp [stripCommentFrom, hne]

/-- Behind a string the scan is outside of all strings again. -/
lemma keeps_codePart (part : CodePart) : Keeps none part.text := by
  intro rest
  cases part with
  | plain c h => simp [CodePart.text, stripCommentFrom, h.1, h.2.1, h.2.2]
  | quoted quote h parts =>
    have hinside := keeps_flatMap keeps_quotedPart parts (quote :: rest)
    rw [stripCommentFrom_close h] at hinside
    have htext : (CodePart.quoted quote h parts).text ++ rest =
        quote :: (parts.flatMap QuotedPart.text ++ quote :: rest) := by
      simp [CodePart.text]
    rw [htext, stripCommentFrom_open h, hinside]
    simp [CodePart.text]

end Scan

section Reading

/-- A text that goes on inside a string, closes it, and is a line in parts from there on. -/
def Closes (quote : Char) (cs : List Char) : Prop :=
  ∃ (parts : List (QuotedPart quote)) (line : CodeLine),
    cs = parts.flatMap QuotedPart.text ++ quote :: line.text

lemma Closes.cons {quote : Char} {cs : List Char} (h : Closes quote cs) (part : QuotedPart quote) :
    Closes quote (part.text ++ cs) := by
  obtain ⟨parts, line, rfl⟩ := h
  exact ⟨part :: parts, line, by simp⟩

lemma Closes.exists_line {quote : Char} {cs : List Char} (h : Closes quote cs)
    (hquote : quote = '"' ∨ quote = '\'') : ∃ line : CodeLine, line.text = quote :: cs := by
  obtain ⟨parts, line, rfl⟩ := h
  refine ⟨⟨.quoted quote hquote parts :: line.parts, line.comment⟩, ?_⟩
  simp [CodeLine.text, CodeLine.code, CodePart.text]

/-- From each state of the scan the text can be read in parts, or a string is open at its end and
all of it is kept. -/
lemma exists_parts_or_kept (cs : List Char) :
    ((∃ line : CodeLine, line.text = cs) ∨ stripCommentFrom none false cs = cs) ∧
    ∀ quote, (Closes quote cs ∨ stripCommentFrom (some quote) false cs = cs) ∧
      (Closes quote cs.tail ∨ stripCommentFrom (some quote) true cs = cs) := by
  induction cs with
  | nil => exact ⟨.inr rfl, fun quote => ⟨.inr rfl, .inr rfl⟩⟩
  | cons c cs ih =>
    obtain ⟨houtside, hinside⟩ := ih
    refine ⟨?_, fun quote => ⟨?_, ?_⟩⟩
    · by_cases hquote : c = '"' ∨ c = '\''
      · rw [stripCommentFrom_open hquote]
        exact (hinside c).1.imp (fun h => h.exists_line hquote) (congrArg (c :: ·))
      · by_cases hhash : c = '#'
        · subst hhash
          exact .inl ⟨⟨[], some cs⟩, rfl⟩
        · obtain ⟨hdouble, hsingle⟩ := not_or.1 hquote
          refine houtside.imp ?_ fun h => ?_
          · rintro ⟨line, rfl⟩
            exact ⟨⟨.plain c ⟨hdouble, hsingle, hhash⟩ :: line.parts, line.comment⟩, rfl⟩
          · simp [stripCommentFrom, hdouble, hsingle, hhash, h]
    · by_cases hescape : c = '\\'
      · subst hescape
        cases cs with
        | nil => exact .inr rfl
        | cons d cs =>
          refine (hinside quote).2.imp (fun h => h.cons (.escape d)) fun h => ?_
          rw [stripCommentFrom]
          simp [h]
      · by_cases hclose : c = quote
        · subst hclose
          refine houtside.imp ?_ fun h => ?_
          · rintro ⟨line, rfl⟩
            exact ⟨[], line, rfl⟩
          · simp [stripCommentFrom, hescape, h]
        · refine (hinside quote).1.imp (fun h => h.cons (.plain c ⟨hclose, hescape⟩)) fun h => ?_
          simp [stripCommentFrom, hescape, hclose, h]
    · exact (hinside quote).1.imp id fun h => by simp [stripCommentFrom, h]

end Reading

/-- A line is kept up to the `#` of its comment. Every line can be read in parts, unless a string is
open at its end, and then it is kept as a whole. -/
theorem stripComment_exact :
    (∀ line : CodeLine, stripComment line.text = line.code) ∧
    ∀ cs, (∃ line : CodeLine, line.text = cs) ∨ stripComment cs = cs := by
  refine ⟨?_, fun cs => (exists_parts_or_kept cs).1⟩
  intro line
  have hcode : Keeps none line.code := keeps_flatMap keeps_codePart line.parts
  have hcomment : stripCommentFrom none false (line.comment.elim [] ('#' :: ·)) = [] := by
    cases line.comment <;> rfl
  rw [stripComment, CodeLine.text, hcode, hcomment, List.append_nil]

example : stripComment "a == '#\\'\"': # it's".toList = "a == '#\\'\"': ".toList := by decide

end Literal
end Doc
end Waymark
