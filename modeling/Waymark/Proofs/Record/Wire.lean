import Waymark.Grammar.Basic
import Waymark.Proofs.Json.Decode

/-! Records survive their journey through JSON text. A list of records that is written, on one line
or indented, is decoded to the same records, and only their file is given anew. -/
namespace Waymark

open Json

namespace Properties

lemma insertEntry_of_forall_lt {name : String} {entries : List (String × String)}
    (h : ∀ e ∈ entries, e.1 < name) (value : String) :
    insertEntry name value entries = entries ++ [(name, value)] := by
  induction entries with
  | nil => rfl
  | cons e entries ih =>
    obtain ⟨he, hentries⟩ := List.forall_mem_cons.1 h
    rw [insertEntry, if_neg (String.lt_asymm he), if_pos he, ih hentries, List.cons_append]

/-- Entries in order that come behind all others are added at the end. -/
lemma entries_foldl_insert {l : List (String × String)} (hl : l.Pairwise fun a b => a.1 < b.1)
    {p : Properties} (hp : ∀ e ∈ p.entries, ∀ f ∈ l, e.1 < f.1) :
    (l.foldl (fun p e => p.insert e.1 e.2) p).entries = p.entries ++ l := by
  induction l generalizing p with
  | nil => simp
  | cons e l ih =>
    obtain ⟨he, hl⟩ := List.pairwise_cons.1 hl
    have hinsert : (p.insert e.1 e.2).entries = p.entries ++ [e] :=
      insertEntry_of_forall_lt (fun x hx => hp x hx e List.mem_cons_self) e.2
    rw [List.foldl_cons, ih hl, hinsert, List.append_assoc, List.singleton_append]
    intro x hx f hf
    rw [hinsert, List.mem_append, List.mem_singleton] at hx
    rcases hx with hx | rfl
    · exact hp x hx f (List.mem_cons_of_mem e hf)
    · exact he f hf

lemma eq_of_entries {p q : Properties} (h : p.entries = q.entries) : p = q := by
  cases p
  cases q
  cases h
  rfl

lemma ofList_entries (p : Properties) : ofList p.entries = p :=
  eq_of_entries (entries_foldl_insert p.ordered (List.forall_mem_nil _))

lemma ofJson?_toJson (p : Properties) : ofJson? p.toJson = some p := by
  have hjson : p.toJson = .object (p.entries.map fun e => (some e.1, .str e.2)) := by
    rw [toJson, Json.obj, List.map_map]
    rfl
  have hentries : (p.entries.map fun e => (some e.1, Json.str e.2)).mapM
      (fun f => do return (← f.1, ← str? f.2)) = some p.entries :=
    mapM_map_of_inverse fun _ _ => rfl
  rw [hjson, ofJson?, hentries, Option.map_some, ofList_entries]

lemma natural_toJson (p : Properties) : Natural p.toJson := by
  apply natural_obj
  intro _ hmem
  obtain ⟨e, -, rfl⟩ := List.mem_map.1 hmem
  exact .string _

end Properties

lemma Signals.ofJson?_toJson (s : Signals) : ofJson? s.toJson = some s := rfl

lemma Signals.natural_toJson (s : Signals) : Natural s.toJson := by
  apply natural_obj
  simp only [List.forall_mem_cons]
  exact ⟨.bool _, .bool _, List.forall_mem_nil _⟩

lemma Relation.ofJson?_toJson (r : Relation) : ofJson? r.toJson = some r := by
  cases r with
  | mk kind token => cases kind <;> rfl

lemma Relation.natural_toJson (r : Relation) : Natural r.toJson := by
  apply natural_obj
  simp only [List.forall_mem_cons]
  exact ⟨.string _, .string _, List.forall_mem_nil _⟩

namespace Record

lemma ofJson?_toJson {r : Record} (hstart : r.startLine < wordLimit)
    (hend : r.endLine < wordLimit) : ofJson? r.toJson = some r := by
  have hnames : fieldNames.Nodup := by decide
  have hcolumns : columns? fieldNames r.toJson =
      some [some (.str r.file), some (.nat r.startLine), some (.nat r.endLine),
        some (.str r.marker), some r.signals.toJson, some (.str r.contents),
        some r.properties.toJson, some (.array (r.relations.map Relation.toJson)),
        some (.array (r.canonicals.map .str)), some (.array (r.mentions.map .str)),
        some (.array (r.tags.map .str))] :=
    columns?_obj hnames (by rfl) fieldNames
  have hrelations : list? Relation.ofJson? (.array (r.relations.map Relation.toJson)) =
      some r.relations :=
    list?_map fun x _ => x.ofJson?_toJson
  have htexts : ∀ l : List String, list? str? (.array (l.map .str)) = some l := fun l =>
    list?_map fun _ _ => rfl
  simp only [ofJson?, hcolumns, required?, optional?, nat?_nat hstart, nat?_nat hend,
    Signals.ofJson?_toJson, Properties.ofJson?_toJson, hrelations, htexts, str?, Json.str]
  rfl

lemma natural_toJson (r : Record) : Natural r.toJson := by
  have htexts : ∀ l : List String, Natural (.array (l.map .str)) :=
    natural_array_map fun s => .string (some s)
  apply natural_obj
  simp only [List.forall_mem_cons]
  exact ⟨.string _, .nat _, .nat _, .string _, r.signals.natural_toJson, .string _,
    r.properties.natural_toJson, natural_array_map Relation.natural_toJson _, htexts _, htexts _,
    htexts _, List.forall_mem_nil _⟩

lemma listOfJson?_listToJson {rs : List Record}
    (h : ∀ r ∈ rs, r.startLine < wordLimit ∧ r.endLine < wordLimit) :
    listOfJson? (listToJson rs) = some rs :=
  list?_map fun r hr => ofJson?_toJson (h r hr).1 (h r hr).2

end Record

/-- A text that holds the written form of records is decoded to them. -/
lemma decodeRecords_of_reads {rs : List Record}
    (hlines : ∀ r ∈ rs, r.startLine < wordLimit ∧ r.endLine < wordLimit) {cs : List Char}
    (h : Reads cs (Record.listToJson rs)) (file : String) :
    decodeRecords (String.ofList cs) file = .ok (rs.map (Record.stamp file)) := by
  simp only [decodeRecords, String.toList_ofList, h.parse, Record.listOfJson?_listToJson hlines]

/-- Records that are written as JSON, on one line or indented, are decoded as they were, but for
their file. -/
theorem decodeRecords_listToJson (rs : List Record)
    (hlines : ∀ r ∈ rs, r.startLine < wordLimit ∧ r.endLine < wordLimit) (file : String) :
    decodeRecords (String.ofList (print (Record.listToJson rs))) file =
        .ok (rs.map (Record.stamp file)) ∧
      decodeRecords (prettyText (Record.listToJson rs)) file =
        .ok (rs.map (Record.stamp file)) := by
  have hnatural : Natural (Record.listToJson rs) := natural_array_map Record.natural_toJson rs
  constructor
  · exact decodeRecords_of_reads hlines (reads_print hnatural) file
  · exact decodeRecords_of_reads hlines (reads_pretty hnatural 0) file

/-- A record with every kind of relation, texts that need escapes, and the last line that fits. -/
def crowded : Record :=
  { file := "a.rs"
    startLine := 0
    endLine := wordLimit - 1
    marker := "todo"
    signals := ⟨true, false⟩
    contents := "say \"no\" to \\ and /\n\t\r\x00\x08\x0c\x1f\x7f"
    properties := .ofList [("ö", "\u2028"), ("", "𝄞"), ("b", "\uffff")]
    relations := RelationKind.all.map fun k => ⟨k, "#road"⟩
    canonicals := ["#a", "#a"]
    mentions := []
    tags := ["😀"] }

theorem decodeRecords_listToJson_crowded :
    (∀ r ∈ [crowded, .new "" 1 ""], r.startLine < wordLimit ∧ r.endLine < wordLimit) ∧
      decodeRecords (String.ofList (print (Record.listToJson [crowded, .new "" 1 ""]))) "b.rs" =
        .ok [crowded.stamp "b.rs", .new "b.rs" 1 ""] ∧
      decodeRecords (prettyText (Record.listToJson [crowded, .new "" 1 ""])) "b.rs" =
        .ok [crowded.stamp "b.rs", .new "b.rs" 1 ""] := by
  have hlines : ∀ r ∈ [crowded, .new "" 1 ""],
      r.startLine < wordLimit ∧ r.endLine < wordLimit := by
    simp [crowded, Record.new, wordLimit]
  exact ⟨hlines, decodeRecords_listToJson [crowded, .new "" 1 ""] hlines "b.rs"⟩

end Waymark
