import Mathlib.Algebra.Group.Nat.Even
import Waymark.Proofs.Preamble.AttributeText

/-! Raw strings in an inner attribute. The scan of brackets takes every string for an ordinary one,
so an attribute with a raw string ends on its own line exactly when its last bracket still counts in
that reading. Backslashes before the closing quote and quotes inside the body decide this. -/
namespace Waymark
namespace Preamble

open Text

/-- What ends a raw string: a quote with as many hashes as stand before the body. -/
def rawClosing (hashes : Nat) : List Char :=
  '"' :: List.replicate hashes '#'

/-- A raw string. Nothing in its body is escaped. -/
def rawString (hashes : Nat) (body : List Char) : List Char :=
  'r' :: List.replicate hashes '#' ++ '"' :: body ++ rawClosing hashes

/-- Text that can stand in a raw string on one line. -/
structure IsRawBody (hashes : Nat) (body : List Char) : Prop where
  newline : '\n' ∉ body
  closing : ¬rawClosing hashes <:+: body

/-- An attribute whose value is a raw string. -/
def rawDoc (hashes : Nat) (body : List Char) : List Char :=
  "#![doc = ".toList ++ rawString hashes body ++ [']']

def backslashesAtEnd (cs : List Char) : Nat :=
  (cs.reverse.takeWhile (· == '\\')).length

lemma backslashesAtEnd_concat (cs : List Char) (c : Char) :
    backslashesAtEnd (cs ++ [c]) = if c = '\\' then backslashesAtEnd cs + 1 else 0 := by
  by_cases hc : c = '\\' <;> simp [backslashesAtEnd, hc]

namespace BracketScan

lemma feed_run {s : BracketScan} {cs : List Char}
    (h : ∀ c ∈ cs, ∀ l, s.feed (c :: l) = s.feed l) (l : List Char) :
    s.feed (cs ++ l) = s.feed l := by
  induction cs with
  | nil => rfl
  | cons c cs ih =>
    rw [List.cons_append, h c List.mem_cons_self]
    exact ih fun d hd => h d (List.mem_cons_of_mem c hd)

variable (depth : Int) (hashes : Nat) (l : List Char)

lemma feed_hashes_outside :
    feed ⟨depth, false⟩ (List.replicate hashes '#' ++ l) = feed ⟨depth, false⟩ l := by
  apply feed_run
  intro c hc l
  rw [List.eq_of_mem_replicate hc]
  exact feed_plain depth l rfl

lemma feed_hashes_inside :
    feed ⟨depth, true⟩ (List.replicate hashes '#' ++ l) = feed ⟨depth, true⟩ l := by
  apply feed_run
  intro c hc l
  rw [List.eq_of_mem_replicate hc]
  exact feed_stringChar depth l (by decide)

/-- Behind a text without a quote the scan is still inside the string. Of the backslashes at its end
every second one is escaped, so the last one escapes the next character when their number is odd. -/
lemma feed_of_no_quote {body : List Char} (hbody : '"' ∉ body) :
    feed ⟨depth, true⟩ (body ++ l) = feedFrom (backslashesAtEnd body % 2) ⟨depth, true⟩ l := by
  induction body using List.reverseRecOn generalizing l with
  | nil => rfl
  | append_singleton body c ih =>
    have hrest : '"' ∉ body := fun h => hbody (List.mem_append_left _ h)
    have hc : c ≠ '"' := fun h => hbody (h ▸ List.mem_append_right _ List.mem_cons_self)
    have hinside : (c != '"') = true := bne_iff_ne.2 hc
    rw [List.append_assoc, List.singleton_append, ih _ hrest, backslashesAtEnd_concat]
    rcases Nat.mod_two_eq_zero_or_one (backslashesAtEnd body) with hpar | hpar
    · by_cases hback : c = '\\'
      · have hodd : (backslashesAtEnd body + 1) % 2 = 1 := by omega
        rw [hpar, if_pos hback, hodd, hback]
        rfl
      · simp [hpar, hback, feedFrom, hinside]
    · have heven : (if c = '\\' then backslashesAtEnd body + 1 else 0) % 2 = 0 := by
        split <;> omega
      rw [hpar, heven]
      rfl

/-- Where nothing else counts, every quote ends a string or begins one. -/
lemma feed_of_only_quotes {body : List Char}
    (hbody : ∀ c ∈ body, c ≠ '\\' ∧ c ≠ '\'' ∧ c ≠ '[' ∧ c ≠ ']') (inString : Bool) :
    feed ⟨depth, inString⟩ (body ++ l) =
      feed ⟨depth, if Even (body.count '"') then inString else !inString⟩ l := by
  induction body generalizing inString with
  | nil => rfl
  | cons c body ih =>
    obtain ⟨hback, hquote, hopen, hclose⟩ := hbody c List.mem_cons_self
    have hrest := ih fun d hd => hbody d (List.mem_cons_of_mem c hd)
    rw [List.cons_append]
    by_cases hc : c = '"'
    · subst hc
      have hflip : feed ⟨depth, inString⟩ ('"' :: (body ++ l)) =
          feed ⟨depth, !inString⟩ (body ++ l) := by
        cases inString <;> rfl
      rw [hflip, hrest, List.count_cons_self]
      by_cases heven : Even (body.count '"') <;> simp [heven, Nat.even_add_one]
    · have hsame : feed ⟨depth, inString⟩ (c :: (body ++ l)) =
          feed ⟨depth, inString⟩ (body ++ l) := by
        cases inString with
        | false => exact feed_plain depth _ (by simp [isPlain, hc, hquote, hopen, hclose])
        | true => exact feed_stringChar depth _ ⟨hc, hback⟩
      rw [hsame, hrest, List.count_cons_of_ne hc]

/-- The hashes and the quote in front of the body open an ordinary string. -/
lemma feed_rawDoc (body : List Char) :
    start.feed (rawDoc hashes body) =
      feed ⟨1, true⟩ (body ++ rawClosing hashes ++ [']']) := by
  have hhead : "#![doc = ".toList = "#![".toList ++ "doc = ".toList := by decide
  have hmark : ∀ t, start.feed ("#![".toList ++ t) = feed ⟨1, false⟩ t := fun _ => rfl
  have hname : ∀ c ∈ "doc = ".toList, isPlain c = true := by simp [isPlain]
  have hletter : isPlain 'r' = true := rfl
  unfold rawDoc rawString
  rw [hhead]
  simp only [List.append_assoc, List.cons_append]
  rw [hmark, feed_run fun c hc t => feed_plain 1 t (hname c hc), feed_plain 1 _ hletter,
    feed_hashes_outside]
  rfl

/-- A closing quote that counts lets the bracket behind it close the attribute. -/
lemma feed_closing_of_counted :
    feed ⟨1, true⟩ (rawClosing hashes ++ [']']) = ⟨0, false⟩ := by
  change feed ⟨1, false⟩ (List.replicate hashes '#' ++ [']']) = _
  rw [feed_hashes_outside]
  rfl

/-- Without it the bracket is part of a string. -/
lemma feed_closing_of_passed :
    feed ⟨1, true⟩ (List.replicate hashes '#' ++ [']']) = ⟨1, true⟩ := by
  rw [feed_hashes_inside]
  rfl

end BracketScan

open BracketScan

/-- The scan goes on below a line whose brackets are not all closed. -/
lemma skipDirectives_cons_eq_one_iff {a : List Char} (ha : isInnerAttribute a = true)
    {rest : List (List Char)} (hrest : ∀ l ∈ rest.head?, ¬"#![".toList <+: trimStart l) :
    skipDirectives .rust (a :: rest) 0 = 1 ↔ rest = [] ∨ (start.feed a).depth ≤ 0 := by
  have hskip : skipDirectives .rust (a :: rest) 0 =
      attributeLines (start.feed a).unfinished? rest + 1 := by
    rw [skipDirectives, List.drop_zero, attributeLines, if_pos ha, Nat.zero_add]
  rw [hskip]
  by_cases hdepth : (start.feed a).depth ≤ 0
  · simp [unfinished?, hdepth, attributeLines_of_head hrest]
  · cases rest with
    | nil => simp [attributeLines]
    | cons l rest => simp [unfinished?, hdepth, attributeLines]

lemma isInnerAttribute_rawDoc (hashes : Nat) (body : List Char) :
    isInnerAttribute (rawDoc hashes body) = true := rfl

section Body

variable {hashes : Nat} {body : List Char}

/-- A body without quotes is taken for what it is unless a backslash escapes the closing quote. -/
lemma closed_of_no_quote_iff (hbody : '"' ∉ body) :
    (feed ⟨1, true⟩ (body ++ rawClosing hashes ++ [']'])).depth ≤ 0 ↔
      Even (backslashesAtEnd body) := by
  rw [List.append_assoc, feed_of_no_quote _ _ hbody, Nat.even_iff]
  rcases Nat.mod_two_eq_zero_or_one (backslashesAtEnd body) with hpar | hpar
  · have hread : feedFrom 0 ⟨1, true⟩ (rawClosing hashes ++ [']']) = ⟨0, false⟩ :=
      feed_closing_of_counted hashes
    simp [hpar, hread]
  · have hread : feedFrom 1 ⟨1, true⟩ (rawClosing hashes ++ [']']) = ⟨1, true⟩ :=
      feed_closing_of_passed hashes
    simp [hpar, hread]

/-- Quotes in a body without brackets, apostrophes and backslashes must come in pairs. -/
lemma closed_of_only_quotes_iff
    (hbody : ∀ c ∈ body, c ≠ '\\' ∧ c ≠ '\'' ∧ c ≠ '[' ∧ c ≠ ']') :
    (feed ⟨1, true⟩ (body ++ rawClosing hashes ++ [']'])).depth ≤ 0 ↔
      Even (body.count '"') := by
  rw [List.append_assoc, feed_of_only_quotes _ _ hbody]
  by_cases heven : Even (body.count '"')
  · simp [heven, feed_closing_of_counted]
  · have hread : feed ⟨1, false⟩ (rawClosing hashes ++ [']']) = ⟨1, true⟩ :=
      feed_closing_of_passed hashes
    simp [heven, hread]

end Body

/-- An attribute with a raw string is passed over, and nothing but it, exactly when no line follows
or the raw string read as an ordinary one lets the last bracket count. Without quotes in the body
that means an even number of backslashes at its end; without brackets, apostrophes and backslashes
it means an even number of quotes. -/
theorem skipDirectives_rawDoc (hashes : Nat) (body : List Char) {rest : List (List Char)}
    (hrest : ∀ l ∈ rest.head?, ¬"#![".toList <+: trimStart l) :
    (skipDirectives .rust (rawDoc hashes body :: rest) 0 = 1 ↔
      rest = [] ∨ (feed ⟨1, true⟩ (body ++ rawClosing hashes ++ [']'])).depth ≤ 0) ∧
    ('"' ∉ body →
      (skipDirectives .rust (rawDoc hashes body :: rest) 0 = 1 ↔
        rest = [] ∨ Even (backslashesAtEnd body))) ∧
    ((∀ c ∈ body, c ≠ '\\' ∧ c ≠ '\'' ∧ c ≠ '[' ∧ c ≠ ']') →
      (skipDirectives .rust (rawDoc hashes body :: rest) 0 = 1 ↔
        rest = [] ∨ Even (body.count '"'))) := by
  have hexact := skipDirectives_cons_eq_one_iff (isInnerAttribute_rawDoc hashes body) hrest
  rw [feed_rawDoc] at hexact
  refine ⟨hexact, fun hbody => ?_, fun hbody => ?_⟩
  · rw [hexact, closed_of_no_quote_iff hbody]
  · rw [hexact, closed_of_only_quotes_iff hbody]

/-- Two quotes in the body cancel out. -/
theorem skipDirectives_rawDoc_paired :
    rawDoc 1 "see \"x\"".toList = "#![doc = r#\"see \"x\"\"#]".toList ∧
      skipDirectives .rust [rawDoc 1 "see \"x\"".toList, "mod a;".toList] 0 = 1 := by
  have hrest : ∀ l ∈ ["mod a;".toList].head?, ¬"#![".toList <+: trimStart l := by
    rintro l ⟨⟩
    decide
  have hbody : ∀ c ∈ "see \"x\"".toList, c ≠ '\\' ∧ c ≠ '\'' ∧ c ≠ '[' ∧ c ≠ ']' := by simp
  exact ⟨by decide +kernel,
    ((skipDirectives_rawDoc 1 "see \"x\"".toList hrest).2.2 hbody).2 (.inr (by decide))⟩

/-- A path that ends in a backslash keeps the attribute open, and the next line is lost in it. -/
theorem skipDirectives_rawDoc_backslash :
    ¬∀ (hashes : Nat) (body : List Char), IsRawBody hashes body →
      ∀ rest : List (List Char), (∀ l ∈ rest.head?, ¬"#![".toList <+: trimStart l) →
        skipDirectives .rust (rawDoc hashes body :: rest) 0 = 1 := by
  intro h
  have hbody : IsRawBody 0 "C:\\".toList := ⟨by decide, by decide⟩
  have hrest : ∀ l ∈ ["mod a;".toList].head?, ¬"#![".toList <+: trimStart l := by
    rintro l ⟨⟩
    decide
  have hskip : skipDirectives .rust [rawDoc 0 "C:\\".toList, "mod a;".toList] 0 = 2 := by
    decide +kernel
  have hone := h 0 "C:\\".toList hbody ["mod a;".toList] hrest
  omega

end Preamble
end Waymark
