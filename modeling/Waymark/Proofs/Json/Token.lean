import Mathlib.Data.List.DropRight
import Waymark.Json.Print
import Waymark.Json.Token

/-! Written tokens are read back: strings with all their escapes, natural numbers, and the literal
names. Behind a number there must be something that does not belong to it. -/
namespace Waymark
namespace Json

/-- Whether a number ends before this text. -/
def EndsNumber (rest : List Char) : Prop :=
  ∀ c ∈ rest.head?, c.isDigit = false ∧ c ≠ '.' ∧ c ≠ 'e' ∧ c ≠ 'E'

lemma endsNumber_nil : EndsNumber [] := by simp [EndsNumber]

lemma endsNumber_cons {c : Char} (h : isSpace c = true ∨ isMark c = true) (rest : List Char) :
    EndsNumber (c :: rest) := by
  have hall : [' ', '\n', '\t', '\r', '[', ']', '{', '}', ':', ','].all (fun d =>
      !d.isDigit && d != '.' && d != 'e' && d != 'E') = true := by decide
  have hmem : c ∈ [' ', '\n', '\t', '\r', '[', ']', '{', '}', ':', ','] := by
    simpa [isSpace, isMark, or_assoc] using h
  intro d hd
  obtain rfl := Option.some.inj hd
  simpa [and_assoc] using List.all_eq_true.1 hall c hmem

lemma endsNumber_append {space : List Char} (hspace : ∀ c ∈ space, isSpace c = true) {c : Char}
    (hc : isMark c = true) (rest : List Char) : EndsNumber (space ++ c :: rest) := by
  cases space with
  | nil => exact endsNumber_cons (.inr hc) rest
  | cons d ds => exact endsNumber_cons (.inl (hspace d List.mem_cons_self)) _

section Number

lemma head?_toDigits {n : Nat} (h : 0 < n) : (Nat.toDigits 10 n).head? ≠ some '0' := by
  induction n using Nat.strong_induction_on with
  | _ n ih =>
    by_cases hn : n < 10
    · have hdigits : ∀ i : Fin 10, 0 < i.val → [Nat.digitChar i.val].head? ≠ some '0' := by decide
      rw [Nat.toDigits_of_lt_base hn]
      exact hdigits ⟨n, hn⟩ h
    · rw [Nat.toDigits_of_base_le (by decide) (by omega),
        List.head?_append_of_ne_nil _ Nat.toDigits_ne_nil]
      exact ih (n / 10) (by omega) (by omega)

lemma digits_toDigits (n : Nat) {rest : List Char} (h : EndsNumber rest) :
    digits (Nat.toDigits 10 n ++ rest) = (Nat.toDigits 10 n, rest) := by
  have hall : ∀ c ∈ Nat.toDigits 10 n, c.isDigit = true := fun c hc =>
    Nat.isDigit_of_mem_toDigits (by decide) (by decide) hc
  have hrest : rest.takeWhile Char.isDigit = [] ∧ rest.dropWhile Char.isDigit = rest := by
    cases rest with
    | nil => exact ⟨rfl, rfl⟩
    | cons c cs => simp [(h c rfl).1]
  rw [digits, List.takeWhile_append_of_pos hall, List.dropWhile_append_of_pos hall, hrest.1,
    hrest.2, List.append_nil]

lemma whole_toDigits (n : Nat) {rest : List Char} (h : EndsNumber rest) :
    whole (Nat.toDigits 10 n ++ rest) = .ok (Nat.toDigits 10 n, rest) := by
  unfold whole
  rw [digits_toDigits n h]
  split
  · rename_i hnil
    exact absurd (Prod.mk.inj hnil).1 Nat.toDigits_ne_nil
  · rename_i c cs _ hzero
    obtain ⟨hdigits, -⟩ := Prod.mk.inj hzero
    -- Only zero itself begins with a zero, and it has no second digit.
    rcases Nat.eq_zero_or_pos n with rfl | hpos
    · simp at hdigits
    · exact absurd (by rw [hdigits]; rfl) (head?_toDigits hpos)
  · rename_i hds
    rw [Prod.mk.inj hds |>.1, Prod.mk.inj hds |>.2]

lemma fraction_of_endsNumber {rest : List Char} (h : EndsNumber rest) :
    fraction rest = .ok ([], rest) := by
  unfold fraction
  split
  · exact absurd rfl (h '.' rfl).2.1
  · rfl

lemma exponent_of_endsNumber {rest : List Char} (h : EndsNumber rest) :
    exponent rest = .ok ([], rest) := by
  unfold exponent
  split
  · rename_i c cs
    obtain ⟨-, -, he, hE⟩ := h c rfl
    rw [if_neg (by simp [he, hE])]
  · rfl

/-- A natural number is read up to its last digit. -/
theorem number?_toDigits (n : Nat) {rest : List Char} (h : EndsNumber rest) :
    number? (Nat.toDigits 10 n ++ rest) = .ok (Nat.toDigits 10 n, rest) := by
  simp only [number?, whole_toDigits n h, fraction_of_endsNumber h, exponent_of_endsNumber h, bind,
    Except.bind, pure, Except.pure, List.append_nil]

end Number

section String

/-- An escape is read back as the character it was written for. -/
lemma stringUnits_escapeChar (c : Char) (rest : List Char) :
    stringUnits (escapeChar c ++ rest) =
      (stringUnits rest).map fun (units, tail) => (c.toNat :: units, tail) := by
  unfold escapeChar
  split_ifs with hquote hslash hn hr ht hb hf hcontrol
  · subst hquote; rfl
  · subst hslash; rfl
  · subst hn; rfl
  · subst hr; rfl
  · subst ht; rfl
  · subst hb; rfl
  · subst hf; rfl
  · have hc : c.toNat < 32 := hcontrol
    have hlow := Text.hexValue?_hexDigit (Nat.mod_lt c.toNat (by decide : 16 > 0))
    have hhigh : Text.hexValue? (Text.hexDigit (c.toNat / 16)) = some (c.toNat / 16) :=
      Text.hexValue?_hexDigit (by omega)
    have hhex : hex4? '0' '0' (Text.hexDigit (c.toNat / 16)) (Text.hexDigit (c.toNat % 16)) =
        some c.toNat := by
      have hzero : Text.hexValue? '0' = some 0 := rfl
      simp only [hex4?, hzero, hhigh, hlow, Option.some.injEq]
      omega
    simp only [List.cons_append, List.nil_append, stringUnits, hhex]
  · simp [stringUnits, hslash, hcontrol]

lemma stringUnits_flatMap (cs rest : List Char) :
    stringUnits (cs.flatMap escapeChar ++ '"' :: rest) = .ok (cs.map Char.toNat, rest) := by
  induction cs with
  | nil => rfl
  | cons c cs ih =>
    rw [List.flatMap_cons, List.append_assoc, stringUnits_escapeChar, ih]
    rfl

lemma not_half (c : Char) : isHighHalf c.toNat = false ∧ isLowHalf c.toNat = false := by
  have hvalid := c.valid
  constructor <;>
  · simp only [isHighHalf, isLowHalf, UInt32.isValidChar, Nat.isValidChar, Char.toNat] at *
    grind

lemma ofUnits_map_toNat (cs : List Char) : ofUnits (cs.map Char.toNat) = some cs := by
  induction cs with
  | nil => rfl
  | cons c cs ih =>
    obtain ⟨hhigh, hlow⟩ := not_half c
    cases cs with
    | nil => simp [ofUnits, hhigh, hlow]
    | cons d ds =>
      rw [List.map_cons, List.map_cons, ofUnits, hhigh, hlow, ← List.map_cons, ih]
      simp

end String

/-- Before `rest`, the text `cs` is one token. -/
def IsToken (cs : List Char) (t : Token) (rest : List Char) : Prop :=
  ∃ c tail, cs ++ rest = c :: tail ∧ isSpace c = false ∧ lex c tail = (t, rest)

lemma isToken_mark {c : Char} (h : isMark c = true) (rest : List Char) :
    IsToken [c] (.mark c) rest := by
  have hall : ['[', ']', '{', '}', ':', ','].all (fun d => !isSpace d) = true := by decide
  have hspace := List.all_eq_true.1 hall c (by simpa [isMark, or_assoc] using h)
  refine ⟨c, rest, rfl, by simpa using hspace, ?_⟩
  rw [lex, if_pos h]

lemma isToken_printString (s : Option String) (rest : List Char) :
    IsToken (printString s) (.scalar (.string s)) rest := by
  cases s with
  | none =>
    refine ⟨'"', '\\' :: 'u' :: 'd' :: '8' :: '0' :: '0' :: '"' :: rest, rfl, rfl, ?_⟩
    have hhalf : hex4? 'd' '8' '0' '0' = some 0xD800 := rfl
    have hmark : isMark '"' = false := rfl
    simp [lex, hmark, stringUnits, hhalf, Except.map, ofUnits, isHighHalf]
  | some s =>
    have htext : printString (some s) ++ rest =
        '"' :: (s.toList.flatMap escapeChar ++ '"' :: rest) :=
      List.append_assoc ('"' :: s.toList.flatMap escapeChar) ['"'] rest
    refine ⟨'"', _, htext, rfl, ?_⟩
    have hmark : isMark '"' = false := rfl
    simp only [lex, hmark, Bool.false_eq_true, if_false, if_true, stringUnits_flatMap,
      ofUnits_map_toNat, Option.map_some, String.ofList_toList]

lemma isToken_toDigits (n : Nat) {rest : List Char} (h : EndsNumber rest) :
    IsToken (Nat.toDigits 10 n) (.scalar (nat n)) rest := by
  obtain ⟨c, cs, hcs⟩ := List.exists_cons_of_ne_nil (Nat.toDigits_ne_nil (b := 10) (n := n))
  have hdigit : c.isDigit = true :=
    Nat.isDigit_of_mem_toDigits (b := 10) (n := n) (by decide) (by decide) (by simp [hcs])
  have hother : ¬(isSpace c = true ∨ isMark c = true) := by
    intro hc
    simp [(endsNumber_cons hc [] c rfl).1] at hdigit
  obtain ⟨hspace, hmark⟩ := not_or.1 hother
  have hquote : c ≠ '"' := by rintro rfl; exact absurd hdigit (by decide)
  have hminus : c ≠ '-' := by rintro rfl; exact absurd hdigit (by decide)
  refine ⟨c, cs ++ rest, by rw [hcs]; rfl, Bool.eq_false_iff.2 hspace, ?_⟩
  have hnumber := number?_toDigits n h
  rw [hcs, List.cons_append] at hnumber
  simp only [lex, if_neg hmark, if_neg hquote, if_neg hminus, if_pos hdigit, hnumber, nat, hcs]

lemma isToken_null (rest : List Char) : IsToken "null".toList (.scalar .null) rest :=
  ⟨'n', _, rfl, rfl, rfl⟩

lemma isToken_bool (b : Bool) (rest : List Char) :
    IsToken (print (.bool b)) (.scalar (.bool b)) rest := by
  cases b with
  | true => exact ⟨'t', _, rfl, rfl, rfl⟩
  | false => exact ⟨'f', _, rfl, rfl, rfl⟩

end Json
end Waymark
