import Waymark.Yaml.Layout

/-! The nodes of a YAML document, and their composition out of tokens. -/
namespace Waymark
namespace Yaml

inductive Node where
  | scalar (style : Style) (tag : Option (List UInt8)) (text : List Char)
  | sequence (items : List Node)
  | mapping (entries : List (Node × Node))
  /-- A reference to an anchored node. -/
  | alias (id : Nat)
  deriving Repr, Inhabited

/-- A node that is left out. -/
def Node.absent : Node :=
  .scalar .plain none []

/-- The anchored nodes of a document. An anchor gets the number of names known before it as its
identifier, so a name that is given again can share one with a later name; the node that starts
last then takes it. -/
structure Anchors where
  /-- The identifier of each name. -/
  names : List (List Char × Nat)
  /-- The serial number of the node that holds each identifier, newest first. -/
  holders : List (Nat × Nat)
  /-- The finished nodes under their serial numbers. -/
  nodes : List (Nat × Node)
  deriving Repr

namespace Anchors

def empty : Anchors :=
  ⟨[], [], []⟩

/-- Opens an anchored node. -/
def declare (a : Anchors) (name : List Char) : Anchors :=
  let id := a.names.length
  { a with
    names := (name, id) :: a.names.filter fun p => p.1 != name
    holders := (id, a.holders.length) :: a.holders }

/-- Closes the anchored node with this serial number. -/
def define (a : Anchors) (serial : Nat) (n : Node) : Anchors :=
  { a with nodes := (serial, n) :: a.nodes }

def find? (a : Anchors) (id : Nat) : Option Node :=
  (a.holders.lookup id).bind fun serial => a.nodes.lookup serial

end Anchors

/-- What tag handles stand for. -/
abbrev Handles := List (List Char × List UInt8)

def standardHandles : Handles :=
  [(['!'], Text.bytes ['!']), (['!', '!'], Text.bytes "tag:yaml.org,2002:".toList)]

/-- The full form of a tag. -/
def Handles.resolve (h : Handles) (handle : List Char) (suffix : List UInt8) :
    Except Fault (List UInt8) :=
  if handle.isEmpty then .ok suffix
  else
    match h.lookup handle with
    | some expansion => .ok (expansion ++ suffix)
    | none => .error .unknownTagHandle

/-- The properties of a node, and what follows them. -/
structure Properties where
  anchor : Option (List Char)
  tag : Option (List UInt8)
  rest : List Token
  deriving Repr

/-- An anchor and a tag may stand before a node in either order. -/
def takeProperties (h : Handles) (ts : List Token) : Except Fault Properties :=
  match ts with
  | .anchor a :: .tag handle suffix :: rest
  | .tag handle suffix :: .anchor a :: rest =>
    (h.resolve handle suffix).map fun t => ⟨some a, some t, rest⟩
  | .anchor a :: rest => .ok ⟨some a, none, rest⟩
  | .tag handle suffix :: rest => (h.resolve handle suffix).map fun t => ⟨none, some t, rest⟩
  | _ => .ok ⟨none, none, ts⟩

/-- What a reader of nodes leaves: its result, the tokens after it and the anchors so far. -/
abbrev Reading := Node × List Token × Anchors

/-- Whether a key or value is left out before this token of a block mapping. -/
def endsBlockItem : List Token → Bool
  | .key :: _ | .value :: _ | .blockEnd :: _ => true
  | _ => false

/-- A node that consists of its properties. -/
def emptyNode (p : Properties) (ts : List Token) (known : Anchors) : Except Fault Reading :=
  if p.anchor.isSome || p.tag.isSome then .ok (.scalar .plain p.tag [], ts, known)
  else .error .missingNode

/-- What follows a comma. -/
def afterComma? : List Token → Option (List Token)
  | .flowEntry :: rest => some rest
  | _ => none

mutual

/-- Reads a node. `block` allows block collections, and `indentless` also a sequence that is not
indented. Readers call each other no more often than `fuel`. -/
def readNode (h : Handles) (block indentless : Bool) :
    (fuel : Nat) → List Token → Anchors → Except Fault Reading
  | 0, _, _ => .error .missingNode
  | fuel + 1, ts, known =>
    match ts with
    | .alias name :: rest =>
      match known.names.lookup name with
      | some id => .ok (.alias id, rest, known)
      | none => .error .unknownAnchor
    | _ => do
      let p ← takeProperties h ts
      let serial := known.holders.length
      let opened := (p.anchor.map known.declare).getD known
      let (n, rest, after) ← readContent h block indentless p fuel p.rest opened
      return (n, rest, if p.anchor.isSome then after.define serial n else after)

/-- Reads a node after its properties. -/
def readContent (h : Handles) (block indentless : Bool) (p : Properties) :
    (fuel : Nat) → List Token → Anchors → Except Fault Reading
  | 0, _, _ => .error .missingNode
  | fuel + 1, ts, known =>
    match ts with
    | .scalar style text :: rest => .ok (.scalar style p.tag text, rest, known)
    | .openSequence :: rest => readFlowSequence h true [] fuel rest known
    | .openMapping :: rest => readFlowMapping h true [] fuel rest known
    | .blockEntry :: _ =>
      if indentless then readIndentless h [] fuel ts known else emptyNode p ts known
    | .blockSequence :: rest =>
      if block then readBlockSequence h [] fuel rest known else emptyNode p ts known
    | .blockMapping :: rest =>
      if block then readBlockMapping h [] fuel rest known else emptyNode p ts known
    | _ => emptyNode p ts known

def readBlockSequence (h : Handles) (items : List Node) :
    (fuel : Nat) → List Token → Anchors → Except Fault Reading
  | 0, _, _ => .error .missingNode
  | fuel + 1, ts, known =>
    match ts with
    | .blockEnd :: rest => .ok (.sequence items.reverse, rest, known)
    | .blockEntry :: rest =>
      match rest with
      | .blockEntry :: _ | .blockEnd :: _ =>
        readBlockSequence h (.absent :: items) fuel rest known
      | _ => do
        let (n, tail, after) ← readNode h true false fuel rest known
        readBlockSequence h (n :: items) fuel tail after
    | _ => .error .missingEntry

def readIndentless (h : Handles) (items : List Node) :
    (fuel : Nat) → List Token → Anchors → Except Fault Reading
  | 0, _, _ => .error .missingNode
  | fuel + 1, ts, known =>
    match ts with
    | .blockEntry :: rest =>
      match rest with
      | .blockEntry :: _ | .key :: _ | .value :: _ | .blockEnd :: _ =>
        readIndentless h (.absent :: items) fuel rest known
      | _ => do
        let (n, tail, after) ← readNode h true false fuel rest known
        readIndentless h (n :: items) fuel tail after
    | _ => .ok (.sequence items.reverse, ts, known)

def readBlockMapping (h : Handles) (entries : List (Node × Node)) :
    (fuel : Nat) → List Token → Anchors → Except Fault Reading
  | 0, _, _ => .error .missingNode
  | fuel + 1, ts, known =>
    match ts with
    | .blockEnd :: rest => .ok (.mapping entries.reverse, rest, known)
    | .key :: rest => do
      let (k, tail, after) ←
        if endsBlockItem rest then .ok (Node.absent, rest, known)
        else readNode h true true fuel rest known
      match tail with
      | .value :: more =>
        if endsBlockItem more then readBlockMapping h ((k, .absent) :: entries) fuel more after
        else do
          let (v, left, last) ← readNode h true true fuel more after
          readBlockMapping h ((k, v) :: entries) fuel left last
      | _ => readBlockMapping h ((k, .absent) :: entries) fuel tail after
    | _ => .error .missingKey

/-- Reads a flow sequence; an entry may also be a mapping with one key. -/
def readFlowSequence (h : Handles) (first : Bool) (items : List Node) :
    (fuel : Nat) → List Token → Anchors → Except Fault Reading
  | 0, _, _ => .error .missingNode
  | fuel + 1, ts, known =>
    match ts with
    | .closeSequence :: rest => .ok (.sequence items.reverse, rest, known)
    | _ =>
      match if first then some ts else afterComma? ts with
      | none => .error .missingEntry
      | some (.closeSequence :: rest) => .ok (.sequence items.reverse, rest, known)
      | some (.key :: rest) => do
        let (n, tail, after) ← readPair h fuel rest known
        readFlowSequence h false (n :: items) fuel tail after
      | some entry => do
        let (n, tail, after) ← readNode h false false fuel entry known
        readFlowSequence h false (n :: items) fuel tail after

/-- Reads a key and a value that make up an entry of a flow sequence. A mark in the place of the
key is passed over. -/
def readPair (h : Handles) : (fuel : Nat) → List Token → Anchors → Except Fault Reading
  | 0, _, _ => .error .missingNode
  | fuel + 1, ts, known => do
    let (k, tail, after) ←
      match ts with
      | .value :: rest | .flowEntry :: rest | .closeSequence :: rest =>
        .ok (Node.absent, rest, known)
      | _ => readNode h false false fuel ts known
    match tail with
    | .value :: .flowEntry :: _ | .value :: .closeSequence :: _ =>
      return (.mapping [(k, .absent)], tail.drop 1, after)
    | .value :: rest =>
      let (v, left, last) ← readNode h false false fuel rest after
      return (.mapping [(k, v)], left, last)
    | _ => return (.mapping [(k, .absent)], tail, after)

def readFlowMapping (h : Handles) (first : Bool) (entries : List (Node × Node)) :
    (fuel : Nat) → List Token → Anchors → Except Fault Reading
  | 0, _, _ => .error .missingNode
  | fuel + 1, ts, known =>
    match ts with
    | .closeMapping :: rest => .ok (.mapping entries.reverse, rest, known)
    | _ =>
      match if first then some ts else afterComma? ts with
      | none => .error .missingEntry
      | some (.closeMapping :: rest) => .ok (.mapping entries.reverse, rest, known)
      | some (.key :: rest) => do
        let (k, tail, after) ←
          match rest with
          | .value :: _ | .flowEntry :: _ | .closeMapping :: _ => .ok (Node.absent, rest, known)
          | _ => readNode h false false fuel rest known
        match tail with
        | .value :: .flowEntry :: _ | .value :: .closeMapping :: _ =>
          readFlowMapping h false ((k, .absent) :: entries) fuel (tail.drop 1) after
        | .value :: more =>
          let (v, left, last) ← readNode h false false fuel more after
          readFlowMapping h false ((k, v) :: entries) fuel left last
        | _ => readFlowMapping h false ((k, .absent) :: entries) fuel tail after
      | some entry => do
        let (k, tail, after) ← readNode h false false fuel entry known
        readFlowMapping h false ((k, .absent) :: entries) fuel tail after

end

/-- A document: its root and its anchored nodes. -/
structure Document where
  root : Node
  anchors : Anchors
  deriving Repr

namespace Document

/-- Reads the directives before a document. Versions other than 1.1 and 1.2 are not understood, and
neither the version nor a handle may be given twice. -/
def directives (versioned : Bool) (given : Handles) :
    List Token → Except Fault (Handles × List Token)
  | .version major minor :: rest =>
    if versioned || major ≠ 1 || (minor ≠ 1 && minor ≠ 2) then .error .badDirective
    else directives true given rest
  | .handle name expansion :: rest =>
    if (given.lookup name).isSome then .error .badDirective
    else directives versioned ((name, expansion) :: given) rest
  | ts => .ok (given ++ standardHandles, ts)

def isDirective : Token → Bool
  | .version .. | .handle .. => true
  | _ => false

/-- Whether a document ends before it has a node. -/
def isVacant : List Token → Bool
  | [] => true
  | t :: _ => isDirective t || t = .documentStart || t = .documentEnd

/-- Every reader takes a token or calls one that does. -/
def fuelFor (ts : List Token) : Nat :=
  4 * ts.length + 4

/-- Reads the one document of a list of tokens. -/
def ofTokens (ts : List Token) : Except Fault Document :=
  match ts with
  | [] => .ok ⟨.absent, .empty⟩
  | t :: _ =>
    if isDirective t || t = .documentStart then
      match directives false [] ts with
      | .error e => .error e
      | .ok (h, .documentStart :: rest) =>
        if isVacant rest then finish (.absent, rest, .empty)
        else (readNode h true false (fuelFor rest) rest .empty).bind finish
      | .ok _ => .error .missingDocumentStart
    else (readNode standardHandles true false (fuelFor ts) ts .empty).bind finish
where
  /-- Nothing but end marks may follow a document. -/
  finish : Reading → Except Fault Document
    | (root, rest, anchors) =>
      if (rest.dropWhile fun t => t = .documentEnd).isEmpty then .ok ⟨root, anchors⟩
      else .error .furtherDocument

def parse (text : List Char) : Except Fault Document :=
  (tokenize text).bind ofTokens

end Document
end Yaml
end Waymark
