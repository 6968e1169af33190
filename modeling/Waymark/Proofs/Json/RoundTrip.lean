import Waymark.Json.Parse
import Waymark.Proofs.Json.Token

/-! Written values are read back, on one line or indented. The reader is followed from any state in
which a value may begin to the state in which that value is complete, whatever is open around it and
whatever comes behind it. -/
namespace Waymark
namespace Json

variable {text cs rest : List Char}

section Run

variable {state next : State} {space : List Char}

lemma run_space {c : Char} (hc : isSpace c = true) (cs : List Char) :
    run text state (c :: cs) = run text state cs := by
  unfold run
  rw [List.dropWhile_cons_of_pos hc]

lemma run_spaces (hspace : ∀ c ∈ space, isSpace c = true) (cs : List Char) :
    run text state (space ++ cs) = run text state cs := by
  induction space with
  | nil => rfl
  | cons c space ih =>
    obtain ⟨hc, hrest⟩ := List.forall_mem_cons.1 hspace
    rw [List.cons_append, run_space hc, ih hrest]

/-- One token is one step. -/
lemma run_token {t : Token} (h : IsToken cs t rest) (hstep : state.step t = .ok next) :
    run text state (cs ++ rest) = run text next rest := by
  obtain ⟨c, tail, hcs, hc, hlex⟩ := h
  have hdrop : (c :: tail).dropWhile isSpace = c :: tail := by
    rw [List.dropWhile_cons_of_neg (by rw [hc]; decide)]
  rw [hcs, run, hdrop]
  simp only [hlex, hstep]

lemma run_mark {c : Char} (hc : isMark c = true) (hstep : state.step (.mark c) = .ok next) :
    run text state (c :: rest) = run text next rest :=
  run_token (isToken_mark hc rest) hstep

end Run

/-- Whether a value may begin in this state, with `outer` open around it. -/
def Begins (state : State) (outer : List Open) : Prop :=
  ∀ t, t ≠ .mark ']' → state.step t = State.openValue outer t

lemma Begins.step_bracket {state : State} {outer : List Open} (h : Begins state outer) :
    state.step (.mark '[') = .ok (.item outer) :=
  h _ (by simp)

lemma Begins.step_brace {state : State} {outer : List Open} (h : Begins state outer) :
    state.step (.mark '{') = .ok (.key true [] outer) :=
  h _ (by simp)

lemma begins_value (outer : List Open) : Begins (.value outer) outer :=
  fun _ _ => rfl

lemma begins_item (outer : List Open) : Begins (.item outer) (.array [] :: outer) := by
  intro t ht
  -- The rule for an empty array is the only one that does not begin an item.
  rw [State.step]
  exact ht

/-- Wherever a value may begin, the text is read as this one. -/
def Reads (cs : List Char) (v : Json) : Prop :=
  ∀ text state outer rest, Begins state outer → EndsNumber rest →
    run text state (cs ++ rest) = run text (.ended v outer) rest

/-- Wherever a key may stand, the text is read as this field. -/
def ReadsField (cs : List Char) (f : Option String × Json) : Prop :=
  ∀ text first seen outer rest, EndsNumber rest →
    run text (.key first seen outer) (cs ++ rest) =
      run text (.ended f.2 (.field seen f.1 :: outer)) rest

lemma reads_scalar {v : Json} (h : ∀ rest, EndsNumber rest → IsToken cs (.scalar v) rest) :
    Reads cs v := by
  intro text state outer rest hstate hrest
  apply run_token (h rest hrest)
  exact hstate _ nofun

lemma Reads.space_append {v : Json} (h : Reads cs v) {space : List Char}
    (hspace : ∀ c ∈ space, isSpace c = true) : Reads (space ++ cs) v := by
  intro text state outer rest hstate hrest
  rw [List.append_assoc, run_spaces hspace, h text state outer rest hstate hrest]

lemma ReadsField.space_append {f : Option String × Json} (h : ReadsField cs f) {space : List Char}
    (hspace : ∀ c ∈ space, isSpace c = true) : ReadsField (space ++ cs) f := by
  intro text first seen outer rest hrest
  rw [List.append_assoc, run_spaces hspace, h text first seen outer rest hrest]

lemma readsField_of_reads (k : Option String) {v : Json} (h : Reads cs v) :
    ReadsField (printString k ++ ':' :: cs) (k, v) := by
  intro text first seen outer rest hrest
  have hkey : (State.key first seen outer).step (.scalar (.string k)) =
      .ok (.colon seen k outer) := by
    cases first <;> cases seen <;> rfl
  rw [List.append_assoc, run_token (isToken_printString k _) hkey, List.cons_append,
    run_mark rfl rfl]
  exact h text _ _ rest (begins_value _) hrest

section Parts

variable {space : List Char} (hspace : ∀ c ∈ space, isSpace c = true)
include hspace

/-- The parts of an array or object that are still to come, up to the mark that closes it. A part
may begin in the states `start` and leads to the state `done`; the last one completes `whole`. -/
lemma run_parts {α : Type} {part : α → List Char} {close : Char} (hmark : isMark close = true)
    (start : List α → State → Prop) (done : List α → α → State) (whole : List α → State)
    (hcomma : ∀ seen a, ∃ next, (done seen a).step (.mark ',') = .ok next ∧ start (a :: seen) next)
    (hclose : ∀ seen a, (done seen a).step (.mark close) = .ok (whole (a :: seen).reverse))
    {parts : List α} (hne : parts ≠ [])
    (hparts : ∀ a ∈ parts, ∀ seen state rest, start seen state → EndsNumber rest →
      run text state (part a ++ rest) = run text (done seen a) rest)
    {seen : List α} {state : State} (hstart : start seen state) :
    run text state ([','].intercalate (parts.map part) ++ (space ++ close :: rest)) =
      run text (whole (seen.reverse ++ parts)) rest := by
  -- The parts that were read wait in reverse: each one moves from `parts` to the head of `seen`.
  induction parts generalizing state seen with
  | nil => exact absurd rfl hne
  | cons a l ih =>
    obtain ⟨ha, hl⟩ := List.forall_mem_cons.1 hparts
    cases l with
    | nil =>
      rw [List.map_singleton, List.intercalate_singleton,
        ha seen state _ hstart (endsNumber_append hspace hmark rest), run_spaces hspace,
        run_mark hmark (hclose seen a), List.reverse_cons]
    | cons b l =>
      obtain ⟨next, hstep, hnext⟩ := hcomma seen a
      rw [List.map_cons, List.map_cons, List.intercalate_cons_cons, List.append_assoc,
        List.append_assoc, List.singleton_append,
        ha seen state _ hstart (endsNumber_cons (.inr rfl) _), run_mark rfl hstep, ← List.map_cons,
        ih (List.cons_ne_nil b l) hl hnext, List.reverse_cons, List.append_assoc,
        List.singleton_append]

lemma reads_array {part : Json → List Char} {items : List Json} (hne : items ≠ [])
    (h : ∀ v ∈ items, Reads (part v) v) :
    Reads ('[' :: [','].intercalate (items.map part) ++ space ++ [']']) (.array items) := by
  intro text state outer rest hstate _
  rw [List.append_assoc, List.append_assoc, List.cons_append, run_mark rfl hstate.step_bracket,
    List.singleton_append]
  exact run_parts hspace rfl (fun seen state => Begins state (.array seen :: outer))
    (fun seen v => .ended v (.array seen :: outer)) (fun items => .ended (.array items) outer)
    (fun _ _ => ⟨_, rfl, begins_value _⟩) (fun _ _ => rfl) hne
    (fun v hv seen state rest => h v hv text state (.array seen :: outer) rest)
    (begins_item outer)

lemma reads_object {part : Option String × Json → List Char} {fields : List (Option String × Json)}
    (hne : fields ≠ []) (h : ∀ f ∈ fields, ReadsField (part f) f) :
    Reads ('{' :: [','].intercalate (fields.map part) ++ space ++ ['}']) (.object fields) := by
  intro text state outer rest hstate _
  rw [List.append_assoc, List.append_assoc, List.cons_append, run_mark rfl hstate.step_brace,
    List.singleton_append]
  refine run_parts hspace rfl (fun seen state => ∃ first, state = .key first seen outer)
    (fun seen f => .ended f.2 (.field seen f.1 :: outer))
    (fun fields => .ended (.object fields) outer)
    (fun _ _ => ⟨_, rfl, false, rfl⟩) (fun _ _ => rfl) hne ?_ ⟨true, rfl⟩
  rintro f hf seen _ rest ⟨first, rfl⟩ hrest
  exact h f hf text first seen outer rest hrest

end Parts

lemma reads_array_nil : Reads ['[', ']'] (.array []) := by
  intro text state outer rest hstate _
  rw [List.cons_append, run_mark rfl hstate.step_bracket, List.singleton_append, run_mark rfl rfl]

lemma reads_object_nil : Reads ['{', '}'] (.object []) := by
  intro text state outer rest hstate _
  rw [List.cons_append, run_mark rfl hstate.step_brace, List.singleton_append, run_mark rfl rfl]

/-- A text that is read as a value and nothing else holds that value. -/
lemma Reads.parse {v : Json} (h : Reads cs v) : parse cs = .ok v := by
  have hrun := h cs (.value []) [] [] (begins_value []) endsNumber_nil
  rw [List.append_nil] at hrun
  rw [Json.parse, hrun, run]
  rfl

/-- A line that holds a value holds nothing else. -/
lemma Reads.parse_line {v : Json} (h : Reads cs v) : Json.parse (cs ++ ['\n']) = .ok v := by
  have hends : EndsNumber ['\n'] := endsNumber_cons (.inl (by decide)) _
  rw [Json.parse, h (cs ++ ['\n']) (.value []) [] ['\n'] (begins_value []) hends,
    run_space (by decide), run]
  rfl

/-- Whether all numbers in a value are natural. -/
inductive Natural : Json → Prop
  | null : Natural null
  | bool (b : Bool) : Natural (.bool b)
  | nat (n : Nat) : Natural (nat n)
  | string (s : Option String) : Natural (.string s)
  | array {items : List Json} (h : ∀ v ∈ items, Natural v) : Natural (.array items)
  | object {fields : List (Option String × Json)} (h : ∀ f ∈ fields, Natural f.2) :
    Natural (.object fields)

/-- Parts with a comma between two of them. -/
lemma eq_intercalate {α : Type} {part : α → List Char} {parts : List α → List Char}
    (hnil : parts [] = []) (hone : ∀ a, parts [a] = part a)
    (hcons : ∀ a b l, parts (a :: b :: l) = part a ++ ',' :: parts (b :: l)) (l : List α) :
    parts l = [','].intercalate (l.map part) := by
  induction l with
  | nil => exact hnil
  | cons a l ih =>
    cases l with
    | nil => rw [hone, List.map_singleton, List.intercalate_singleton]
    | cons b l =>
      rw [hcons, ih]
      simp only [List.map_cons, List.intercalate_cons_cons, List.append_assoc,
        List.singleton_append]

section Line

lemma printItems_eq (items : List Json) :
    printItems items = [','].intercalate (items.map print) :=
  eq_intercalate rfl (fun _ => by rw [printItems]) (fun _ _ _ => by rw [printItems]; nofun) items

/-- How a field is written on one line. -/
def printField (f : Option String × Json) : List Char :=
  printString f.1 ++ ':' :: print f.2

lemma printFields_eq (fields : List (Option String × Json)) :
    printFields fields = [','].intercalate (fields.map printField) :=
  eq_intercalate rfl (fun _ => by rw [printFields, printField])
    (fun _ _ _ => by rw [printFields, printField]; nofun) fields

theorem reads_print {v : Json} (h : Natural v) : Reads (print v) v := by
  induction h with
  | null => exact reads_scalar fun rest _ => isToken_null rest
  | bool b => exact reads_scalar fun rest _ => isToken_bool b rest
  | nat n => exact reads_scalar fun rest hrest => isToken_toDigits n hrest
  | string s => exact reads_scalar fun rest _ => isToken_printString s rest
  | @array items _ ih =>
    rw [print]
    cases items with
    | nil => exact reads_array_nil
    | cons v vs =>
      have hreads := reads_array (List.forall_mem_nil _) (List.cons_ne_nil v vs) ih
      rwa [List.append_nil, ← printItems_eq] at hreads
  | @object fields _ ih =>
    rw [print]
    cases fields with
    | nil => exact reads_object_nil
    | cons f fs =>
      have hfields : ∀ x ∈ f :: fs, ReadsField (printField x) x := fun x hx =>
        readsField_of_reads x.1 (ih x hx)
      have hreads := reads_object (List.forall_mem_nil _) (List.cons_ne_nil f fs) hfields
      rwa [List.append_nil, ← printFields_eq] at hreads

end Line

section Indented

lemma isSpace_of_mem_newline (n : Nat) : ∀ c ∈ newline n, isSpace c = true := by
  intro c hc
  rcases List.mem_cons.1 hc with rfl | hc
  · rfl
  · rw [List.eq_of_mem_replicate hc]
    rfl

lemma prettyItems_eq (n : Nat) (items : List Json) :
    prettyItems n items = [','].intercalate (items.map fun v => newline n ++ pretty n v) :=
  eq_intercalate rfl (fun _ => by rw [prettyItems]) (fun _ _ _ => by rw [prettyItems]; nofun) items

/-- How a field of an object of depth `n` is written. -/
def prettyField (n : Nat) (f : Option String × Json) : List Char :=
  newline n ++ printString f.1 ++ ':' :: ' ' :: pretty n f.2

lemma prettyFields_eq (n : Nat) (fields : List (Option String × Json)) :
    prettyFields n fields = [','].intercalate (fields.map (prettyField n)) :=
  eq_intercalate rfl (fun _ => by rw [prettyFields, prettyField])
    (fun _ _ _ => by rw [prettyFields, prettyField]; nofun) fields

theorem reads_pretty {v : Json} (h : Natural v) (n : Nat) : Reads (pretty n v) v := by
  induction h generalizing n with
  | null => exact reads_scalar fun rest _ => isToken_null rest
  | bool b =>
    cases b with
    | false => exact reads_scalar fun rest _ => isToken_bool false rest
    | true => exact reads_scalar fun rest _ => isToken_bool true rest
  | nat m => exact reads_scalar fun rest hrest => isToken_toDigits m hrest
  | string s => exact reads_scalar fun rest _ => isToken_printString s rest
  | @array items _ ih =>
    cases items with
    | nil => exact reads_array_nil
    | cons v vs =>
      have hitems : ∀ x ∈ v :: vs, Reads (newline (n + 1) ++ pretty (n + 1) x) x := fun x hx =>
        (ih x hx (n + 1)).space_append (isSpace_of_mem_newline (n + 1))
      have hreads := reads_array (isSpace_of_mem_newline n) (List.cons_ne_nil v vs) hitems
      rwa [← prettyItems_eq, ← pretty] at hreads
  | @object fields _ ih =>
    cases fields with
    | nil => exact reads_object_nil
    | cons f fs =>
      have hfields : ∀ x ∈ f :: fs, ReadsField (prettyField (n + 1) x) x := by
        intro x hx
        have hvalue : Reads (' ' :: pretty (n + 1) x.2) x.2 :=
          (ih x hx (n + 1)).space_append (List.forall_mem_singleton.2 rfl)
        rw [prettyField, List.append_assoc]
        exact (readsField_of_reads x.1 hvalue).space_append (isSpace_of_mem_newline (n + 1))
      have hreads := reads_object (isSpace_of_mem_newline n) (List.cons_ne_nil f fs) hfields
      rwa [← prettyFields_eq, ← pretty] at hreads

end Indented

end Json
end Waymark
