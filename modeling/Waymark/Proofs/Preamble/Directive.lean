import Waymark.Preamble.Directive
import Waymark.Proofs.Text.Blank

/-! Directives do not depend on blank space at the end of their line. The predicates that recognize
them are built from a few parts, and each part passes this property on. -/
namespace Waymark
namespace Text

def blankRanges : List (Nat × Nat) :=
  [(9, 13), (0x20, 0x20), (0x85, 0x85), (0xA0, 0xA0), (0x1680, 0x1680), (0x2000, 0x200A),
    (0x2028, 0x2029), (0x202F, 0x202F), (0x205F, 0x205F), (0x3000, 0x3000)]

lemma isBlank_eq_inRanges (c : Char) : isBlank c = inRanges blankRanges c := by
  rw [Bool.eq_iff_iff]
  simp only [isBlank, inRanges, blankRanges, List.any_cons, List.any_nil, Bool.or_eq_true,
    Bool.and_eq_true, decide_eq_true_eq, beq_iff_eq, Bool.false_eq_true, or_false]
  omega

/-- The blank characters one by one. -/
def blankChars : List Char :=
  (blankRanges.flatMap fun r => List.range' r.1 (r.2 - r.1 + 1)).map Char.ofNat

lemma mem_blankChars {c : Char} (h : isBlank c = true) : c ∈ blankChars := by
  rw [isBlank_eq_inRanges, inRanges, List.any_eq_true] at h
  obtain ⟨r, hr, h⟩ := h
  simp only [Bool.and_eq_true, decide_eq_true_eq] at h
  refine List.mem_map.2 ⟨c.toNat, List.mem_flatMap.2 ⟨r, hr, ?_⟩, Char.ofNat_toNat c⟩
  rw [List.mem_range'_1]
  omega

lemma inRanges_of_disjoint (rs bs : List (Nat × Nat))
    (h : (rs.all fun r => bs.all fun b => r.2.blt b.1 || b.2.blt r.1) = true) {c : Char}
    (hc : inRanges bs c = true) : inRanges rs c = false := by
  rw [Bool.eq_false_iff]
  intro hr
  simp only [inRanges, List.any_eq_true, Bool.and_eq_true, decide_eq_true_eq] at hc hr
  obtain ⟨b, hb, hb1, hb2⟩ := hc
  obtain ⟨r, hr, hr1, hr2⟩ := hr
  have := List.all_eq_true.1 (List.all_eq_true.1 h r hr) b hb
  simp only [Bool.or_eq_true, Nat.blt_eq] at this
  omega

lemma isWordChar_of_isBlank {c : Char} (h : isBlank c = true) : isWordChar c = false :=
  inRanges_of_disjoint wordRanges blankRanges (by decide +kernel) (isBlank_eq_inRanges c ▸ h)

/-- The predicate does not look at blank space at the end. -/
def IgnoresEnd (p : List Char → Bool) : Prop :=
  ∀ x c, isBlank c = true → p (x ++ [c]) = p x

namespace IgnoresEnd

variable {p q : List Char → Bool}

lemma append (h : IgnoresEnd p) (x : List Char) {z : List Char} (hz : isBlankText z = true) :
    p (x ++ z) = p x := by
  induction z generalizing x with
  | nil => simp
  | cons c z ih =>
    rw [isBlankText, List.all_cons, Bool.and_eq_true] at hz
    rw [List.append_cons, ih _ hz.2, h x c hz.1]

theorem trimEnd (h : IgnoresEnd p) (x : List Char) : p (trimEnd x) = p x := by
  obtain ⟨z, hz, hx⟩ := exists_eq_trimEnd_append x
  conv_rhs => rw [hx, h.append _ hz]

lemma or (hp : IgnoresEnd p) (hq : IgnoresEnd q) : IgnoresEnd fun x => p x || q x := by
  intro x c hc
  simp only [hp x c hc, hq x c hc]

lemma any {α : Type} (ws : List α) {f : α → List Char → Bool}
    (h : ∀ w ∈ ws, IgnoresEnd (f w)) : IgnoresEnd fun x => ws.any fun w => f w x := by
  intro x c hc
  induction ws with
  | nil => rfl
  | cons w ws ih =>
    simp only [List.any_cons] at ih ⊢
    rw [h w List.mem_cons_self x c hc, ih fun v hv => h v (List.mem_cons_of_mem _ hv)]

/-- After characters are dropped at the head, a text that is not empty decides. -/
lemma comp_dropWhile {r : Char → Bool}
    (hnil : ∀ c, isBlank c = true → r c = false → p [c] = p [])
    (h : ∀ x c, x ≠ [] → isBlank c = true → p (x ++ [c]) = p x) :
    IgnoresEnd fun x => p (x.dropWhile r) := by
  intro x c hc
  induction x with
  | nil =>
    by_cases hr : r c = true
    · simp [hr]
    · simpa [hr] using hnil c hc (by simpa using hr)
  | cons d x ih =>
    by_cases hr : r d = true
    · simpa [hr] using ih
    · simpa [hr] using h (d :: x) c (by simp) hc

lemma comp_trimStart (h : ∀ x c, x ≠ [] → isBlank c = true → p (x ++ [c]) = p x) :
    IgnoresEnd fun x => p (Text.trimStart x) :=
  comp_dropWhile (fun c hc hn => by simp [hc] at hn) h

lemma trimStart (h : IgnoresEnd p) : IgnoresEnd fun x => p (Text.trimStart x) :=
  comp_trimStart fun x c _ hc => h x c hc

end IgnoresEnd

/-- A pattern without blank space at its end is found or not found as before. -/
lemma after?_append_blank {pat : List Char} (hp : trimEnd pat = pat) (x : List Char) {c : Char}
    (hc : isBlank c = true) : after? pat (x ++ [c]) = (after? pat x).map (· ++ [c]) := by
  apply Option.ext
  intro rest
  rw [after?_eq_some_iff, Option.map_eq_some_iff]
  constructor
  · intro h
    rcases List.eq_nil_or_concat rest with rfl | ⟨rest, d, rfl⟩
    · rw [List.append_nil] at h
      have := trimEnd_eq_self_iff.1 hp c (by simp [← h])
      simp [hc] at this
    · rw [List.concat_eq_append, ← List.append_assoc] at h
      obtain ⟨rfl, hd⟩ := List.append_inj' h rfl
      exact ⟨rest, after?_eq_some_iff.2 rfl, by simpa using hd⟩
  · rintro ⟨rest, h, rfl⟩
    rw [after?_eq_some_iff.1 h, List.append_assoc]

lemma ignoresEnd_after? (pat : List Char) (hpat : trimEnd pat = pat) {p : List Char → Bool}
    (hp : IgnoresEnd p) : IgnoresEnd fun x => (after? pat x).any p := by
  intro x c hc
  cases h : after? pat x with
  | none => simp [after?_append_blank hpat x hc, h]
  | some rest => simp [after?_append_blank hpat x hc, h, hp rest c hc]

lemma ignoresEnd_isPrefixOf {pat : List Char} (hp : trimEnd pat = pat) :
    IgnoresEnd pat.isPrefixOf := by
  intro x c hc
  rw [Bool.eq_iff_iff, List.isPrefixOf_iff_prefix, List.isPrefixOf_iff_prefix]
  refine ⟨fun h => ?_, fun h => h.trans (List.prefix_append _ _)⟩
  rcases List.prefix_concat_iff.1 h with h | h
  · -- The pattern cannot end in a blank character.
    have := trimEnd_eq_self_iff.1 hp c (by simp [h])
    simp [hc] at this
  · exact h

lemma ignoresEnd_endsWord : IgnoresEnd endsWord := by
  intro x c hc
  cases x with
  | nil => simp [endsWord, isWordChar_of_isBlank hc]
  | cons d x => rfl

lemma ignoresEnd_isBlankText : IgnoresEnd isBlankText := by
  intro x c hc
  simp [isBlankText, hc]

end Text

namespace Preamble

open Text

lemma ignoresEnd_opensWithWord (ws : List String)
    (h : ∀ w ∈ ws, trimEnd w.toList = w.toList) : IgnoresEnd (opensWithWord ws) :=
  .any ws fun w hw => ignoresEnd_after? w.toList (h w hw) ignoresEnd_endsWord

lemma ignoresEnd_followsWord (ws : List String) (h : ∀ w ∈ ws, trimEnd w.toList = w.toList)
    {p : List Char → Bool} (hp : IgnoresEnd p) : IgnoresEnd (followsWord ws p) :=
  .any ws fun w hw => ignoresEnd_after? w.toList (h w hw) hp

lemma ignoresEnd_isReference : IgnoresEnd isReference := by
  have hw := ignoresEnd_opensWithWord ["reference", "amd-module", "amd-dependency"]
    (by decide)
  have hr := (ignoresEnd_after? ['<'] (by decide) hw).trimStart
  exact (ignoresEnd_after? "///".toList (by decide) hr).trimStart

lemma ignoresEnd_isLineSwitch : IgnoresEnd isLineSwitch := by
  have hw := (ignoresEnd_opensWithWord typeCheckWords (by decide)).trimStart
  exact (ignoresEnd_after? "//".toList (by decide) hw).trimStart

lemma ignoresEnd_isBlockSwitch : IgnoresEnd isBlockSwitch := by
  have ht := (ignoresEnd_after? "*/".toList (by decide) ignoresEnd_isBlankText).trimStart
  have hw := (ignoresEnd_followsWord typeCheckWords (by decide) ht).trimStart
  exact (ignoresEnd_after? "/*".toList (by decide) hw).trimStart

/-- Whether nothing but a semicolon and blank space stands in the text. -/
def isTerminator : List Char → Bool
  | ';' :: rest => isBlankText rest
  | rest => rest.isEmpty

lemma ignoresEnd_isStatementEnd : IgnoresEnd isStatementEnd := by
  refine IgnoresEnd.comp_trimStart (p := isTerminator) ?_
  intro x c hx hc
  cases x with
  | nil => exact absurd rfl hx
  | cons d x =>
    by_cases hd : d = ';'
    · subst hd
      exact ignoresEnd_isBlankText x c hc
    · simp [isTerminator, hd]

lemma ignoresEnd_isPrologue : IgnoresEnd isPrologue :=
  (ignoresEnd_followsWord _ (by decide) ignoresEnd_isStatementEnd).trimStart

lemma ignoresEnd_isScriptDirective : IgnoresEnd isScriptDirective :=
  ((ignoresEnd_isReference.or ignoresEnd_isLineSwitch).or ignoresEnd_isBlockSwitch).or
    ignoresEnd_isPrologue

/-- A character that the test refuses does not matter at the end. -/
lemma head?_dropWhile_concat {q r : Char → Bool} (x : List Char) {c : Char} (hc : r c = false) :
    ((x ++ [c]).dropWhile q).head?.any r = (x.dropWhile q).head?.any r := by
  induction x with
  | nil => by_cases h : q c = true <;> simp [h, hc]
  | cons d x ih => by_cases h : q d = true <;> simp [h, ih]

/-- Blank characters play no part in directives. -/
lemma blank_facts {c : Char} (h : isBlank c = true) :
    isEncodingChar c = false ∧ (c == ':' || c == '=') = false ∧ foldLetter c = c ∧
      (c == '_' || c == '-') = false ∧ (c == '#') = false := by
  have hall : (blankChars.all fun c => isEncodingChar c == false &&
      (c == ':' || c == '=') == false && foldLetter c == c &&
      (c == '_' || c == '-') == false && (c == '#') == false) = true := by
    decide
  simpa only [Bool.and_eq_true, beq_iff_eq, and_assoc] using
    List.all_eq_true.1 hall c (mem_blankChars h)

lemma ignoresEnd_opensWithCoding : IgnoresEnd opensWithCoding := by
  intro x c hc
  obtain ⟨he, hs, -⟩ := blank_facts hc
  rw [opensWithCoding, opensWithCoding, after?_append_blank (by decide) x hc]
  cases after? "coding".toList x with
  | none => rfl
  | some rest =>
    cases rest with
    | nil => simp [hs]
    | cons d rest =>
      simp only [Option.map_some, List.cons_append]
      rw [head?_dropWhile_concat rest he]

lemma ignoresEnd_namesCoding : IgnoresEnd namesCoding := by
  intro x c hc
  induction x with
  | nil => simp [namesCoding, opensWithCoding, after?]
  | cons d x ih =>
    have ho := ignoresEnd_opensWithCoding (d :: x) c hc
    rw [List.cons_append] at ho ⊢
    rw [namesCoding, namesCoding, ho, ih]

/-- What follows a hash at the head of a text. -/
def afterHash (p : List Char → Bool) : List Char → Bool
  | '#' :: rest => p rest
  | _ => false

lemma afterHash_concat {p : List Char → Bool} (hp : IgnoresEnd p) (x : List Char) (c : Char)
    (hx : x ≠ []) (hc : isBlank c = true) : afterHash p (x ++ [c]) = afterHash p x := by
  match x with
  | [] => exact absurd rfl hx
  | d :: x =>
    by_cases hd : d = '#'
    · subst hd
      exact hp x c hc
    · simp [afterHash, hd]

lemma ignoresEnd_isEncoding : IgnoresEnd isEncoding := by
  refine IgnoresEnd.comp_dropWhile (p := afterHash namesCoding) ?_
    (afterHash_concat ignoresEnd_namesCoding)
  intro c hc _
  have hne : c ≠ '#' := by simpa using (blank_facts hc).2.2.2.2
  simp [afterHash, hne]

lemma afterKey?_append_blank {key : List Char} (hk : ∀ k ∈ key, isBlank k = false)
    (x : List Char) {c : Char} (hc : isBlank c = true) :
    afterKey? key (x ++ [c]) = (afterKey? key x).map (· ++ [c]) := by
  induction key generalizing x with
  | nil => rfl
  | cons k key ih =>
    cases x with
    | nil =>
      obtain ⟨-, -, hf, hu, -⟩ := blank_facts hc
      have hm : matchesKeyChar k c = false := by
        have hne : (c == k) = false := by
          rw [beq_eq_false_iff_ne]
          rintro rfl
          simp [hk c List.mem_cons_self] at hc
        simp [matchesKeyChar, hf, hu, hne]
      simp [afterKey?, hm]
    | cons d x =>
      by_cases hm : matchesKeyChar k d = true
      · simp [afterKey?, hm, ih fun j hj => hk j (List.mem_cons_of_mem _ hj)]
      · simp [afterKey?, hm]

/-- Whether a magic key and the sign after it open the text. -/
def opensWithKey (body : List Char) : Bool :=
  magicKeys.any fun key => (afterKey? key.toList body).any fun tail =>
    (trimStart tail).head?.any fun c => c == ':' || c == '='

lemma ignoresEnd_opensWithKey : IgnoresEnd opensWithKey := by
  have hall : (magicKeys.all fun key => key.toList.all fun k => !isBlank k) = true := by
    decide
  have hkeys : ∀ key ∈ magicKeys, ∀ k ∈ key.toList, isBlank k = false := by
    intro key hkey k hk
    simpa using List.all_eq_true.1 (List.all_eq_true.1 hall key hkey) k hk
  have htail : IgnoresEnd fun tail =>
      (trimStart tail).head?.any fun c => c == ':' || c == '=' := by
    refine IgnoresEnd.comp_trimStart (p := fun t => t.head?.any fun c => c == ':' || c == '=') ?_
    intro x c hx _
    cases x with
    | nil => exact absurd rfl hx
    | cons d x => rfl
  refine .any magicKeys fun key hk x c hc => ?_
  rw [afterKey?_append_blank (hkeys key hk) x hc]
  cases afterKey? key.toList x with
  | none => rfl
  | some tail => exact htail tail c hc

/-- What follows the hash of a magic comment. -/
def isMagicBody (rest : List Char) : Bool :=
  opensWithKey (((after? "-*-".toList rest).map trimStart).getD rest)

lemma ignoresEnd_isMagicBody : IgnoresEnd isMagicBody := by
  intro x c hc
  rw [isMagicBody, isMagicBody, after?_append_blank (by decide) x hc]
  cases after? "-*-".toList x with
  | none => exact ignoresEnd_opensWithKey x c hc
  | some rest => exact ignoresEnd_opensWithKey.trimStart rest c hc

lemma isMagicComment_eq (line : List Char) :
    isMagicComment line = afterHash (fun rest => isMagicBody (trimStart rest)) (trimStart line) :=
  rfl

lemma ignoresEnd_isMagicComment : IgnoresEnd isMagicComment :=
  IgnoresEnd.comp_trimStart (afterHash_concat ignoresEnd_isMagicBody.trimStart)

lemma ignoresEnd_isShebang : IgnoresEnd isShebang := by
  intro x c hc
  rw [isShebang, isShebang, ignoresEnd_isPrefixOf (by decide) x c hc,
    ignoresEnd_isPrefixOf (by decide) x c hc]

lemma ignoresEnd_isInnerAttribute : IgnoresEnd isInnerAttribute :=
  (ignoresEnd_isPrefixOf (by decide)).trimStart

lemma ignoresEnd_isBuildTag : IgnoresEnd isBuildTag := by
  have hnew := ignoresEnd_opensWithWord ["go:build"] (by decide)
  have hold := (ignoresEnd_opensWithWord ["+build"] (by decide)).trimStart
  exact (ignoresEnd_after? "//".toList (by decide) (hnew.or hold)).trimStart

theorem ignoresEnd_isDirective (l : Language) : IgnoresEnd (isDirective l) := by
  cases l with
  | javascript | typescript => exact ignoresEnd_isScriptDirective
  | python => exact ignoresEnd_isEncoding
  | ruby => exact ignoresEnd_isMagicComment
  | rust => exact ignoresEnd_isInnerAttribute
  | go => exact ignoresEnd_isBuildTag
  | markdown | shell => exact fun _ _ _ => rfl

/-- Languages whose directives each stand on a line of their own. -/
def HasLineDirectives (l : Language) : Prop :=
  l = .javascript ∨ l = .typescript ∨ l = .python ∨ l = .ruby

end Preamble
end Waymark
