import Waymark.Json.Token
import Waymark.Text.Offset

/-! Reading JSON text. Tokens are consumed one by one while the arrays and objects that are still
open wait on a stack, so values may be nested to any depth. -/
namespace Waymark
namespace Json

/-- An array or object that is still open, with the parts read so far, the last one first. -/
inductive Open where
  | array (items : List Json)
  | field (fields : List (Option String × Json)) (key : Option String)
  deriving Repr

/-- What the next token may be, and what is open around it. -/
inductive State where
  /-- A value must follow. -/
  | value (outer : List Open)
  /-- An array has just been opened. -/
  | item (outer : List Open)
  /-- A key must follow; `first` tells whether the object has just been opened. -/
  | key (first : Bool) (fields : List (Option String × Json)) (outer : List Open)
  /-- The colon after a key must follow. -/
  | colon (fields : List (Option String × Json)) (key : Option String) (outer : List Open)
  /-- A value is complete. -/
  | ended (value : Json) (outer : List Open)
  deriving Repr

namespace State

/-- Begins a value. -/
def openValue (outer : List Open) : Token → Except Fault State
  | .scalar v => .ok (ended v outer)
  | .mark '[' => .ok (item outer)
  | .mark '{' => .ok (key true [] outer)
  | .mark ']' =>
    match outer with
    | .array (_ :: _) :: _ => .error .trailingComma
    | _ => .error .expectedValue
  | .mark _ => .error .expectedValue
  | .bad f => .error f

/-- Consumes one token. -/
def step : State → Token → Except Fault State
  | value outer, t => openValue outer t
  | item outer, .mark ']' => .ok (ended (.array []) outer)
  | item outer, t => openValue (.array [] :: outer) t
  | key true [] outer, .mark '}' => .ok (ended (.object []) outer)
  | key _ _ _, .mark '}' => .error .trailingComma
  | key _ fields outer, .scalar (.string s) => .ok (colon fields s outer)
  | key _ _ _, _ => .error .expectedKey
  | colon fields k outer, .mark ':' => .ok (value (.field fields k :: outer))
  | colon _ _ _, _ => .error .expectedColon
  | ended v (.array items :: outer), .mark ',' => .ok (value (.array (v :: items) :: outer))
  | ended v (.array items :: outer), .mark ']' => .ok (ended (.array (v :: items).reverse) outer)
  | ended _ (.array _ :: _), _ => .error .expectedArrayEnd
  | ended v (.field fields k :: outer), .mark ',' => .ok (key false ((k, v) :: fields) outer)
  | ended v (.field fields k :: outer), .mark '}' =>
    .ok (ended (.object ((k, v) :: fields).reverse) outer)
  | ended _ (.field _ _ :: _), _ => .error .expectedObjectEnd
  | ended _ [], _ => .error .trailingText

/-- The value that has been read when the text ends. -/
def finish : State → Except Fault Json
  | ended v [] => .ok v
  | ended _ (.array _ :: _) => .error .endInArray
  | ended _ (.field _ _ :: _) => .error .endInObject
  | value _ => .error .endInValue
  | item _ => .error .endInArray
  | key true _ _ => .error .endInObject
  | key false _ _ => .error .endInValue
  | colon _ _ _ => .error .endInObject

end State

/-- A fault and the place, in lines and bytes, at which it shows. -/
structure ParseError where
  fault : Fault
  line : Nat
  column : Nat
  deriving DecidableEq, Repr

def ParseError.message (e : ParseError) : String :=
  s!"{e.fault.message} at line {e.line} column {e.column}"

/-- The place of a fault that shows at the head of `rest`, the end of `text`. -/
def ParseError.locate (fault : Fault) (text rest : List Char) : ParseError :=
  let seen := text.take (text.length - rest.length + 1)
  ⟨fault, Text.newlines seen + 1, Text.size (Text.lastLine seen)⟩

theorem stringUnits_length {cs tail : List Char} {units : List Nat}
    (h : stringUnits cs = .ok (units, tail)) : tail.length ≤ cs.length := by
  fun_induction stringUnits cs generalizing units tail <;>
    simp_all [Except.map] <;> grind

theorem digits_length (cs : List Char) : (digits cs).2.length ≤ cs.length :=
  (List.dropWhile_sublist _).length_le

theorem digits_append (cs : List Char) : (digits cs).1 ++ (digits cs).2 = cs :=
  List.takeWhile_append_dropWhile

theorem whole_length {cs w tail : List Char} (h : whole cs = .ok (w, tail)) :
    tail.length < cs.length := by
  have hd := congrArg List.length (digits_append cs)
  unfold whole at h
  split at h
  · simp at h
  · simp at h
  · rename_i ds _ hne _ hds
    have : 0 < ds.length := List.length_pos_iff.2 hne
    simp only [hds, List.length_append, Except.ok.injEq, Prod.mk.injEq] at hd h
    obtain ⟨rfl, rfl⟩ := h
    omega

theorem fraction_length {cs f tail : List Char} (h : fraction cs = .ok (f, tail)) :
    tail.length ≤ cs.length := by
  unfold fraction at h
  split at h
  · rename_i rest
    have hd := digits_length rest
    split at h <;> simp_all
    omega
  · simp_all

theorem exponentSign_length (cs : List Char) : (exponentSign cs).2.length ≤ cs.length := by
  unfold exponentSign
  split <;> simp

theorem exponent_length {cs e tail : List Char} (h : exponent cs = .ok (e, tail)) :
    tail.length ≤ cs.length := by
  unfold exponent at h
  split at h
  · rename_i c rest
    have hs := exponentSign_length rest
    have hd := digits_length (exponentSign rest).2
    split at h
    · split at h <;> simp_all
      omega
    · simp_all
  · simp_all

theorem number?_length {cs n tail : List Char} (h : number? cs = .ok (n, tail)) :
    tail.length < cs.length := by
  unfold number? at h
  simp only [bind, Except.bind, pure, Except.pure] at h
  split at h
  · simp at h
  · rename_i w hw
    split at h
    · simp at h
    · rename_i f hf
      split at h
      · simp at h
      · rename_i e he
        have := whole_length hw
        have := fraction_length hf
        have := exponent_length he
        simp_all
        omega

theorem literal_length (name : String) (v : Json) (c : Char) (rest : List Char)
    (h : name.toList ≠ []) : (literal name v (c :: rest)).2.length ≤ rest.length := by
  unfold literal
  split
  · rename_i tail hr
    have := congrArg List.length (Text.after?_eq_some_iff.1 hr)
    have := List.length_pos_iff.2 h
    simp_all
    omega
  · simp

/-- A token takes at least one character. -/
theorem lex_length (c : Char) (rest : List Char) : (lex c rest).2.length ≤ rest.length := by
  unfold lex
  split
  · simp
  split
  · split
    · exact stringUnits_length (by assumption)
    · simp
  split
  · split
    · exact Nat.le_of_lt (number?_length (by assumption))
    · simp
  split
  · split
    · exact Nat.le_of_lt_succ (number?_length (by assumption))
    · simp
  repeat' split
  all_goals first
    | exact literal_length _ _ _ _ (by decide)
    | simp

/-- Reads tokens until the text ends. -/
def run (text : List Char) (state : State) (cs : List Char) : Except ParseError Json :=
  match _h : cs.dropWhile isSpace with
  | [] => state.finish.mapError fun f => .locate f text []
  | c :: rest =>
    match state.step (lex c rest).1 with
    | .error f => .error (.locate f text (c :: rest))
    | .ok next => run text next (lex c rest).2
termination_by cs.length
decreasing_by
  have hl := lex_length c rest
  have hd := (List.dropWhile_sublist isSpace (l := cs)).length_le
  simp only [_h, List.length_cons] at hd
  omega

/-- The value that a JSON text holds. -/
def parse (text : List Char) : Except ParseError Json :=
  run text (.value []) text

end Json
end Waymark
