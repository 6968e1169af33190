import Waymark.Preamble.Basic
import Waymark.Proofs.Preamble.Attribute
import Waymark.Proofs.Text.Blank
import Waymark.Proofs.Text.Offset

/-! Inner attributes as they are written: brackets that may stand inside each other, and string and
character literals that may hold brackets of their own. The scan of brackets, which keeps a depth
and a flag from line to line, ends every such attribute on the line of its last bracket. -/
namespace Waymark
namespace Preamble

open Text

/-- A character that neither opens nor closes a bracket or a literal. -/
def isPlain (c : Char) : Bool :=
  c != '"' && c != '\'' && c != '[' && c != ']'

/-- A part of a string literal: characters that stand for themselves, or one behind a backslash.
Both may be line breaks. -/
inductive StringPart where
  | plain (cs : List Char) (h : ∀ c ∈ cs, c ≠ '"' ∧ c ≠ '\\')
  | escape (c : Char)

def StringPart.text : StringPart → List Char
  | plain cs _ => cs
  | escape c => ['\\', c]

/-- A character literal: one character between quotes, or an escape such as `\n`, `\'` or
`\u{5b}`. -/
inductive CharLiteral where
  | plain (c : Char) (h : c ≠ '\'' ∧ c ≠ '\\' ∧ c ≠ '\n')
  | escape (c : Char) (cs : List Char) (h : '\n' ∉ c :: cs ∧ '\'' ∉ cs)

def CharLiteral.text : CharLiteral → List Char
  | plain c _ => ['\'', c, '\'']
  | escape c cs _ => '\'' :: '\\' :: c :: cs ++ ['\'']

/-- What stands between two brackets that belong together. -/
inductive Contents where
  | done
  | plain (cs : List Char) (h : ∀ c ∈ cs, isPlain c = true) (rest : Contents)
  | group (inner rest : Contents)
  | string (parts : List StringPart) (rest : Contents)
  | character (literal : CharLiteral) (rest : Contents)

def Contents.text : Contents → List Char
  | done => []
  | plain cs _ rest => cs ++ rest.text
  | group inner rest => '[' :: inner.text ++ ']' :: rest.text
  | string parts rest => '"' :: parts.flatMap StringPart.text ++ '"' :: rest.text
  | character literal rest => literal.text ++ rest.text

/-- An inner attribute with what stands before and behind it on its first and last line. -/
structure Attribute where
  indent : List Char
  contents : Contents
  tail : List Char
  indent_blank : ∀ c ∈ indent, isBlank c = true ∧ c ≠ '\n'
  tail_plain : ∀ c ∈ tail, isPlain c = true ∧ c ≠ '\n'

namespace Attribute

def text (a : Attribute) : List Char :=
  a.indent ++ "#![".toList ++ a.contents.text ++ ']' :: a.tail

def lines (a : Attribute) : List (List Char) :=
  a.text.splitOn '\n'

end Attribute

section Split

lemma splitOn_newline_cons (t : List Char) :
    ('\n' :: t).splitOn '\n' = [] :: t.splitOn '\n' := by
  simp [List.splitOn_eq_splitOnP, List.splitOnP_cons_eq_if_modifyHead]

lemma splitOn_cons_of_ne {c : Char} (hc : c ≠ '\n') (t : List Char) :
    (c :: t).splitOn '\n' = (t.splitOn '\n').modifyHead (List.cons c) := by
  simp [List.splitOn_eq_splitOnP, List.splitOnP_cons_eq_if_modifyHead, hc]

/-- Text without a line break only makes the first line longer. -/
lemma exists_splitOn_append {w : List Char} (hw : '\n' ∉ w) (t : List Char) :
    ∃ l ls, t.splitOn '\n' = l :: ls ∧ (w ++ t).splitOn '\n' = (w ++ l) :: ls := by
  induction w with
  | nil =>
    obtain ⟨l, ls, ht⟩ := List.exists_cons_of_ne_nil (List.splitOn_ne_nil '\n' t)
    exact ⟨l, ls, ht, ht⟩
  | cons c w ih =>
    obtain ⟨hc, hw⟩ := not_or.1 fun h => hw (List.mem_cons.2 h)
    obtain ⟨l, ls, ht, hwt⟩ := ih hw
    refine ⟨l, ls, ht, ?_⟩
    rw [List.cons_append, splitOn_cons_of_ne (Ne.symm hc), hwt]
    rfl

lemma length_splitOn (t : List Char) : (t.splitOn '\n').length = newlines t + 1 := by
  induction t with
  | nil => rfl
  | cons c t ih =>
    by_cases hc : c = '\n'
    · subst hc
      rw [splitOn_newline_cons, List.length_cons, ih]
      simp [newlines]
    · rw [splitOn_cons_of_ne hc, List.length_modifyHead, ih]
      simp [newlines, hc]

end Split

namespace BracketScan

/-- To read a text inside an attribute leads from one scan to another, however the text goes on,
and takes up a line for each line break. -/
def Reads (s : BracketScan) (w : List Char) (s' : BracketScan) : Prop :=
  ∀ t rest, attributeLines (some s) ((w ++ t).splitOn '\n' ++ rest) =
    attributeLines (some s') (t.splitOn '\n' ++ rest) + newlines w

lemma Reads.refl (s : BracketScan) : Reads s [] s := fun _ _ => rfl

lemma Reads.trans {s s' s'' : BracketScan} {w v : List Char} (h : Reads s w s')
    (h' : Reads s' v s'') : Reads s (w ++ v) s'' := by
  intro t rest
  rw [List.append_assoc, h, h', newlines_append]
  omega

/-- Inside a line, what is read is decided by the characters alone. -/
lemma reads_of_feed {s s' : BracketScan} {w : List Char} (hw : '\n' ∉ w)
    (h : ∀ l, s.feed (w ++ l) = s'.feed l) : Reads s w s' := by
  intro t rest
  obtain ⟨l, ls, ht, hwt⟩ := exists_splitOn_append hw t
  rw [ht, hwt, newlines_of_notMem hw]
  simp only [List.cons_append, attributeLines, h, Nat.add_zero]

/-- At the end of a line the scan goes on as long as a bracket is open. -/
lemma reads_line {s s' : BracketScan} {w : List Char} (hw : '\n' ∉ w) (h : s.feed w = s')
    (hopen : 0 < s'.depth) : Reads s (w ++ ['\n']) s' := by
  intro t rest
  obtain ⟨l, ls, ht, hwt⟩ := exists_splitOn_append hw ('\n' :: t)
  obtain ⟨rfl, rfl⟩ := List.cons.inj ((splitOn_newline_cons t).symm.trans ht)
  have hunfinished : s'.unfinished? = some s' := if_neg (by omega)
  rw [List.append_assoc, List.singleton_append, hwt, List.append_nil, newlines_append,
    newlines_of_notMem hw]
  simp only [List.cons_append, attributeLines, h, hunfinished]
  rfl

/-- A run of characters that change nothing; line breaks among them need an open bracket. -/
lemma reads_run {s : BracketScan} {cs : List Char} (h : ∀ c ∈ cs, ∀ l, s.feed (c :: l) = s.feed l)
    (hopen : '\n' ∈ cs → 0 < s.depth) : Reads s cs s := by
  induction cs with
  | nil => exact .refl s
  | cons c cs ih =>
    have hrest : Reads s cs s :=
      ih (fun d hd => h d (List.mem_cons_of_mem c hd)) fun hd => hopen (List.mem_cons_of_mem c hd)
    by_cases hc : c = '\n'
    · subst hc
      exact (reads_line (w := []) List.not_mem_nil rfl (hopen List.mem_cons_self)).trans hrest
    · exact (reads_of_feed (w := [c]) (by simpa using Ne.symm hc)
        (h c List.mem_cons_self)).trans hrest

section Feed

variable (depth : Int) (l : List Char)

lemma feed_plain {c : Char} (hc : isPlain c = true) :
    feed ⟨depth, false⟩ (c :: l) = feed ⟨depth, false⟩ l := by
  simp only [isPlain, Bool.and_eq_true, bne_iff_ne, and_assoc] at hc
  obtain ⟨hstring, hquote, hopen, hclose⟩ := hc
  simp [feed, feedFrom, hstring, hquote, hopen, hclose]

lemma feed_stringChar {c : Char} (hc : c ≠ '"' ∧ c ≠ '\\') :
    feed ⟨depth, true⟩ (c :: l) = feed ⟨depth, true⟩ l := by
  have hinside : (c != '"') = true := bne_iff_ne.2 hc.1
  simp [feed, feedFrom, hc.2, hinside]

lemma feed_escape (c : Char) : feed ⟨depth, true⟩ ('\\' :: c :: l) = feed ⟨depth, true⟩ l := rfl

/-- Characters that are passed over do not matter. -/
lemma feedFrom_length (s : BracketScan) (w : List Char) :
    feedFrom w.length s (w ++ l) = feedFrom 0 s l := by
  induction w with
  | nil => rfl
  | cons c w ih => exact ih

lemma feed_quote {w : List Char} (h : literalTail (w ++ l) = w.length) :
    feed ⟨depth, false⟩ ('\'' :: (w ++ l)) = feed ⟨depth, false⟩ l := by
  have hskip : feed ⟨depth, false⟩ ('\'' :: (w ++ l)) =
      feedFrom (literalTail (w ++ l)) ⟨depth, false⟩ (w ++ l) := rfl
  rw [hskip, h, feedFrom_length, feed]

/-- The escaped character may be a quote; the first quote behind it ends the literal. -/
lemma literalTail_escape (c : Char) {cs : List Char} (hcs : '\'' ∉ cs) :
    literalTail ('\\' :: c :: cs ++ '\'' :: l) = cs.length + 3 := by
  have hnone : cs.findIdx? (· == '\'') = none := by
    rw [List.findIdx?_eq_none_iff]
    intro d hd
    simpa using fun hquote : d = '\'' => hcs (hquote ▸ hd)
  simp [literalTail, List.findIdx?_append, List.findIdx?_cons, hnone]

/-- A character literal is passed over as a whole. -/
lemma feed_charLiteral (literal : CharLiteral) :
    feed ⟨depth, false⟩ (literal.text ++ l) = feed ⟨depth, false⟩ l := by
  cases literal with
  | plain c h => exact feed_quote depth l (w := [c, '\'']) (by simp [literalTail, h.2.1])
  | escape c cs h =>
    have htext : (CharLiteral.escape c cs h).text ++ l =
        '\'' :: ('\\' :: c :: cs ++ ['\''] ++ l) := rfl
    rw [htext]
    apply feed_quote
    rw [List.append_assoc, List.singleton_append, literalTail_escape l c h.2]
    simp

end Feed

section Grammar

variable {depth : Int}

lemma reads_open (depth : Int) : Reads ⟨depth, false⟩ ['['] ⟨depth + 1, false⟩ :=
  reads_of_feed (by decide) fun _ => rfl

lemma reads_close (depth : Int) : Reads ⟨depth + 1, false⟩ [']'] ⟨depth, false⟩ := by
  apply reads_of_feed (by decide)
  intro l
  simp [feed, feedFrom]

lemma reads_plain {cs : List Char} (h : ∀ c ∈ cs, isPlain c = true)
    (hopen : '\n' ∈ cs → 0 < depth) : Reads ⟨depth, false⟩ cs ⟨depth, false⟩ :=
  reads_run (fun c hc l => feed_plain depth l (h c hc)) hopen

/-- A string stays open from line to line. A backslash at the end of a line stands before the line
break, so that the next line starts without one. -/
lemma reads_stringPart (hopen : 0 < depth) (part : StringPart) :
    Reads ⟨depth, true⟩ part.text ⟨depth, true⟩ := by
  cases part with
  | plain cs h => exact reads_run (fun c hc l => feed_stringChar depth l (h c hc)) fun _ => hopen
  | escape c =>
    by_cases hc : c = '\n'
    · subst hc
      exact reads_line (w := ['\\']) (by decide) rfl hopen
    · exact reads_of_feed (by simpa [StringPart.text] using Ne.symm hc)
        fun l => feed_escape depth l c

lemma reads_stringParts (hopen : 0 < depth) (parts : List StringPart) :
    Reads ⟨depth, true⟩ (parts.flatMap StringPart.text) ⟨depth, true⟩ := by
  induction parts with
  | nil => exact .refl _
  | cons part parts ih => exact (reads_stringPart hopen part).trans ih

lemma reads_quote (inString : Bool) : Reads ⟨depth, inString⟩ ['"'] ⟨depth, !inString⟩ := by
  apply reads_of_feed (by decide)
  intro l
  cases inString <;> rfl

lemma newline_notMem_charLiteral (literal : CharLiteral) : '\n' ∉ literal.text := by
  cases literal with
  | plain c h => simpa [CharLiteral.text] using Ne.symm h.2.2
  | escape c cs h => simpa [CharLiteral.text] using h.1

/-- Between brackets that belong together the scan comes back to where it was. -/
theorem reads_contents (hopen : 0 < depth) (contents : Contents) :
    Reads ⟨depth, false⟩ contents.text ⟨depth, false⟩ := by
  induction contents generalizing depth with
  | done => exact .refl _
  | plain cs h rest ih => exact (reads_plain h fun _ => hopen).trans (ih hopen)
  | group inner rest ihinner ihrest =>
    -- One bracket more is open inside, so the hypothesis is needed at every depth.
    have hinner : Reads ⟨depth, false⟩ ('[' :: inner.text ++ [']']) ⟨depth, false⟩ :=
      ((reads_open depth).trans (ihinner (by omega))).trans (reads_close depth)
    simpa [Contents.text] using hinner.trans (ihrest hopen)
  | string parts rest ih =>
    have hstring : Reads ⟨depth, false⟩ ('"' :: parts.flatMap StringPart.text ++ ['"'])
        ⟨depth, false⟩ :=
      ((reads_quote false).trans (reads_stringParts hopen parts)).trans (reads_quote true)
    simpa [Contents.text] using hstring.trans (ih hopen)
  | character literal rest ih =>
    have hliteral : Reads ⟨depth, false⟩ literal.text ⟨depth, false⟩ :=
      reads_of_feed (newline_notMem_charLiteral literal) fun l => feed_charLiteral depth l literal
    exact hliteral.trans (ih hopen)

end Grammar

end BracketScan

namespace Attribute

variable (a : Attribute)

lemma isPlain_of_isBlank {c : Char} (h : isBlank c = true) : isPlain c = true := by
  obtain ⟨-, hstring, hquote, hopen, hclose⟩ := BracketScan.ne_of_isBlank h
  simp [isPlain, hstring, hquote, hopen, hclose]

/-- All brackets of an attribute are closed behind it. -/
lemma reads_text : BracketScan.Reads .start a.text ⟨0, false⟩ := by
  have hindent : BracketScan.Reads .start a.indent ⟨0, false⟩ :=
    BracketScan.reads_plain (fun c hc => isPlain_of_isBlank (a.indent_blank c hc).1)
      fun hc => absurd rfl (a.indent_blank _ hc).2
  have hmark : BracketScan.Reads ⟨0, false⟩ "#![".toList ⟨1, false⟩ :=
    BracketScan.reads_of_feed (by decide) fun _ => rfl
  have hcontents : BracketScan.Reads ⟨1, false⟩ a.contents.text ⟨1, false⟩ :=
    BracketScan.reads_contents (by decide) a.contents
  have htail : BracketScan.Reads ⟨0, false⟩ a.tail ⟨0, false⟩ :=
    BracketScan.reads_plain (fun c hc => (a.tail_plain c hc).1)
      fun hc => absurd rfl (a.tail_plain _ hc).2
  have hgroup := (hmark.trans hcontents).trans (BracketScan.reads_close 0)
  simpa [text] using (hindent.trans hgroup).trans htail

/-- The first line of an attribute opens it. -/
lemma exists_lines : ∃ l ls, a.lines = l :: ls ∧ isInnerAttribute l = true := by
  have hhead : '\n' ∉ a.indent ++ "#![".toList := by
    intro hmem
    rcases List.mem_append.1 hmem with hmem | hmem
    · exact (a.indent_blank _ hmem).2 rfl
    · exact absurd hmem (by decide)
  obtain ⟨l, ls, -, hlines⟩ := exists_splitOn_append hhead (a.contents.text ++ ']' :: a.tail)
  refine ⟨a.indent ++ "#![".toList ++ l, ls, ?_, ?_⟩
  · rw [lines, text, List.append_assoc, hlines]
  · have hblank : isBlankText a.indent = true :=
      List.all_eq_true.2 fun c hc => (a.indent_blank c hc).1
    rw [isInnerAttribute, List.append_assoc, trimStart_append_of_blank hblank]
    rfl

/-- An attribute takes up its own lines, whatever comes behind it. -/
lemma attributeLines_append (rest : List (List Char)) :
    attributeLines none (a.lines ++ rest) = a.lines.length + attributeLines none rest := by
  obtain ⟨l, ls, hlines, hopens⟩ := a.exists_lines
  have hbegin : attributeLines none (a.lines ++ rest) =
      attributeLines (some .start) (a.lines ++ rest) := by
    rw [hlines, List.cons_append, attributeLines, attributeLines, if_pos hopens]
  have hread := a.reads_text [] rest
  rw [List.append_nil, ← lines] at hread
  have hend : attributeLines (some ⟨0, false⟩) (([] : List Char).splitOn '\n' ++ rest) =
      attributeLines none rest + 1 := rfl
  have hlength : a.lines.length = newlines a.text + 1 := length_splitOn a.text
  omega

end Attribute

lemma attributeLines_flatMap (as : List Attribute) (rest : List (List Char)) :
    attributeLines none (as.flatMap Attribute.lines ++ rest) =
      (as.flatMap Attribute.lines).length + attributeLines none rest := by
  induction as with
  | nil => simp
  | cons a as ih =>
    rw [List.flatMap_cons, List.append_assoc, a.attributeLines_append, ih, List.length_append]
    omega

lemma attributeLines_of_head {rest : List (List Char)}
    (h : ∀ l ∈ rest.head?, ¬"#![".toList <+: trimStart l) : attributeLines none rest = 0 := by
  cases rest with
  | nil => rfl
  | cons l rest =>
    have hl : isInnerAttribute l = false := by
      rw [← Bool.not_eq_true, isInnerAttribute, List.isPrefixOf_iff_prefix]
      exact h l rfl
    simp [attributeLines, hl]

/-- Attributes that are written one below the other are passed over to the line behind the last of
them, provided that this line, if there is one, does not open a further attribute. -/
theorem skipDirectives_attributes (before : List (List Char)) (as : List Attribute)
    {rest : List (List Char)} (hrest : ∀ l ∈ rest.head?, ¬"#![".toList <+: trimStart l) :
    skipDirectives .rust (before ++ as.flatMap Attribute.lines ++ rest) before.length =
      before.length + (as.flatMap Attribute.lines).length := by
  rw [skipDirectives, List.append_assoc, List.drop_left, attributeLines_flatMap,
    attributeLines_of_head hrest, Nat.add_zero]

/-- An attribute over three lines: a string with an escaped quote, a bracket and an escaped line
break, then a group of character literals that name quotes and brackets. -/
def quotedAttribute : Attribute where
  indent := "  ".toList
  contents :=
    .plain "cfg_attr(a, doc = ".toList (by simp [isPlain]) <|
    .string [.plain "x ".toList (by simp), .escape '"', .plain " ] ".toList (by simp),
      .escape '\n', .plain "[".toList (by simp)] <|
    .plain ", b = ".toList (by simp [isPlain]) <|
    .group
      (.character (.escape '\'' [] (by simp)) <|
        .plain [','] (by simp [isPlain]) <|
        .character (.plain '"' (by simp)) <|
        .plain [','] (by simp [isPlain]) <|
        .character (.plain ']' (by simp)) <|
        .plain [','] (by simp [isPlain]) <|
        .character (.escape 'u' "\x7b5b\x7d".toList (by simp)) .done) <|
    .plain "\n)".toList (by simp [isPlain]) .done
  tail := " // end".toList
  indent_blank := by simp [isBlank]
  tail_plain := by simp [isPlain]

def shortAttribute : Attribute where
  indent := []
  contents := .plain "no_std".toList (by simp [isPlain]) .done
  tail := []
  indent_blank := by simp
  tail_plain := by simp

theorem skipDirectives_attributes_quoted :
    [quotedAttribute, shortAttribute].flatMap Attribute.lines =
        ["  #![cfg_attr(a, doc = \"x \\\" ] \\".toList,
          "[\", b = ['\\'','\"',']','\\u\x7b5b\x7d']".toList, ")] // end".toList,
          "#![no_std]".toList] ∧
      skipDirectives .rust (["#!/bin/run".toList] ++
        [quotedAttribute, shortAttribute].flatMap Attribute.lines ++ ["mod a;".toList]) 1 = 5 := by
  have hlines : [quotedAttribute, shortAttribute].flatMap Attribute.lines =
      ["  #![cfg_attr(a, doc = \"x \\\" ] \\".toList,
        "[\", b = ['\\'','\"',']','\\u\x7b5b\x7d']".toList, ")] // end".toList,
        "#![no_std]".toList] := by
    decide +kernel
  have hrest : ∀ l ∈ ["mod a;".toList].head?, ¬"#![".toList <+: trimStart l := by
    rintro l ⟨⟩
    decide
  refine ⟨hlines, (skipDirectives_attributes ["#!/bin/run".toList] _ hrest).trans ?_⟩
  rw [hlines]
  rfl

end Preamble
end Waymark
