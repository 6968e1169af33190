import Waymark.Proofs.Check.Isolation

/-! Summaries, file by file. The issues about summaries come in blocks, one for each file in the
order of its first summary, and a block depends on the summaries of its file alone. -/
namespace Waymark
namespace Check

/-- The marker is `tldr` in any case of its letters. -/
def isTldr (r : Record) : Bool :=
  r.marker.toList.map Char.toLower = ['t', 'l', 'd', 'r']

/-- The files that have a summary, by first summary. -/
def summarizedFiles (rs : List Record) : List String :=
  ((rs.filter isTldr).map Record.file).eraseDups

/-- Where the summaries of a file start, in the order of the records. -/
def startLines (rs : List Record) (file : String) : List Nat :=
  ((rs.filter isTldr).filter fun r => r.file = file).map Record.startLine

/-- Whether the extension of a file is one of Markdown. -/
def isMarkdownFile (file : String) : Bool :=
  (Path.mk file).extension?.any fun ext =>
    ["md", "mdx", "markdown"].contains (String.ofList (Text.asciiLower ext.toList))

/-- The last line on which a summary of the file may start. -/
def lineLimit (o : Options) (file : String) : Nat :=
  if isMarkdownFile file then o.tldrMaxLineMarkdown else o.tldrMaxLine

/-- The issues of a file whose summaries start on these lines: an error at the second one if there
are at least two, then a warning for each that starts past the limit. -/
def fileIssues (o : Options) (file : String) (lines : List Nat) : List Issue :=
  (if h : 2 ≤ lines.length then
    [{ file := file
       line := some lines[1]
       rule := .multipleTldr
       severity := .error
       message := toString lines.length ++ " tldr waymarks in one file (lines " ++
         ", ".intercalate (lines.map toString) ++ ")"
       suggestion := some "keep a single tldr per file" }]
  else []) ++
  (lines.filter fun l => lineLimit o file < l).map fun l =>
    { file := file
      line := some l
      rule := .tldrPosition
      severity := .warning
      message := "tldr on line " ++ toString l ++ " is past line " ++ toString (lineLimit o file)
      suggestion := some "move the tldr to the top of the file" }

section Spelled

lemma isSummary_eq_isTldr (r : Record) : r.isSummary = isTldr r := by
  rw [isTldr, Record.isSummary, Record.hasMarker, Bool.eq_iff_iff, beq_iff_eq, decide_eq_true_eq]
  rfl

/-- No other language has an extension of Markdown. -/
lemma ofExtension?_eq_markdown_iff (ext : String) :
    Language.ofExtension? ext = some .markdown ↔
      ["md", "mdx", "markdown"].contains (String.ofList (Text.asciiLower ext.toList)) = true := by
  constructor
  · intro h
    rw [Language.ofExtension?] at h
    have hmarkdown := List.find?_some h
    exact hmarkdown
  · intro h
    rw [Language.ofExtension?]
    simp only [List.contains_iff_mem, List.mem_cons, List.not_mem_nil, or_false] at h
    rcases h with h | h | h <;> rw [h] <;> decide

lemma maxLine_eq_lineLimit (o : Options) (file : String) : maxLine o file = lineLimit o file := by
  have hiff : Language.ofPath? ⟨file⟩ = some .markdown ↔ isMarkdownFile file = true := by
    rw [Language.ofPath?, isMarkdownFile, Option.bind_eq_some_iff, Option.any_eq_true]
    simp only [ofExtension?_eq_markdown_iff]
  simp only [maxLine, lineLimit, hiff]

lemma fileIssues_eq (o : Options) (file : String) (lines : List Nat) :
    fileIssues o file lines = multipleIssues file lines ++
      (lines.filter fun l => maxLine o file < l).map (positionIssue file (maxLine o file)) := by
  rw [maxLine_eq_lineLimit, fileIssues]
  match lines with
  | [] => rfl
  | [_] => rfl
  | _ :: _ :: _ => rfl

end Spelled

section Blocks

/-- Of the blocks of distinct keys, only that of one key is kept. -/
lemma flatMap_of_nodup {α β : Type} [DecidableEq α] {keys : List α} (h : keys.Nodup)
    (block : α → List β) (k : α) :
    (keys.flatMap fun j => if j = k then block j else []) = if k ∈ keys then block k else [] := by
  induction keys with
  | nil => rfl
  | cons j keys ih =>
    rw [List.nodup_cons] at h
    rw [List.flatMap_cons, ih h.2]
    by_cases hj : j = k
    · subst hj
      simp [h.1]
    · simp [hj, Ne.symm hj]

variable (o : Options) (rs : List Record)

lemma summaries_groups :
    (summaries rs).groups = (summarizedFiles rs).map fun file => (file, startLines rs file) := by
  have hfilter : rs.filter Record.isSummary = rs.filter isTldr :=
    List.filter_congr fun r _ => isSummary_eq_isTldr r
  rw [summaries, Grouped.groups_ofList, hfilter, List.map_map]
  refine List.map_congr_left fun file _ => ?_
  rw [Grouped.valuesOf, List.filter_map, List.map_map]
  rfl

lemma tldrIssues_eq_blocks :
    tldrIssues o rs =
      (summarizedFiles rs).flatMap fun file => fileIssues o file (startLines rs file) := by
  rw [tldrIssues, summaries_groups, List.flatMap_map]
  refine List.flatMap_congr fun file _ => ?_
  rw [fileIssues_eq]

lemma nodup_summarizedFiles : (summarizedFiles rs).Nodup := by
  have hkeys : (summaries rs).groups.map Prod.fst = summarizedFiles rs := by
    rw [summaries_groups, List.map_map]
    exact List.map_id _
  rw [← hkeys]
  exact (Grouped.gathers_ofList _).nodup

lemma startLines_eq_nil {file : String} (h : file ∉ summarizedFiles rs) :
    startLines rs file = [] := by
  rw [startLines, List.map_eq_nil_iff, List.filter_eq_nil_iff]
  intro r hr hfile
  rw [decide_eq_true_eq] at hfile
  refine h (List.mem_eraseDups.2 (List.mem_map.2 ⟨r, hr, hfile⟩))

lemma file_of_mem_fileIssues {file : String} {lines : List Nat} :
    ∀ i ∈ fileIssues o file lines, i.file = file := by
  intro i hi
  rw [fileIssues_eq] at hi
  rcases List.mem_append.1 hi with hi | hi
  · exact multipleIssues_file file lines i hi
  · obtain ⟨l, -, rfl⟩ := List.mem_map.1 hi
    rfl

/-- The issues of one file are its block. -/
lemma filter_file_tldrIssues (file : String) :
    ((tldrIssues o rs).filter fun i => i.file = file) = fileIssues o file (startLines rs file) := by
  have hblock : ∀ f, ((fileIssues o f (startLines rs f)).filter fun i => i.file = file) =
      if f = file then fileIssues o f (startLines rs f) else [] := by
    intro f
    split
    next hf =>
      rw [List.filter_eq_self]
      intro i hi
      simp [file_of_mem_fileIssues o i hi, hf]
    next hf =>
      rw [List.filter_eq_nil_iff]
      intro i hi
      simpa [file_of_mem_fileIssues o i hi] using hf
  rw [tldrIssues_eq_blocks, List.filter_flatMap]
  simp only [hblock]
  rw [flatMap_of_nodup (nodup_summarizedFiles rs) (fun f => fileIssues o f (startLines rs f))]
  split
  next => rfl
  next hnone =>
    rw [startLines_eq_nil rs hnone]
    rfl

section Alone

variable (file : String)

lemma startLines_alone :
    startLines (rs.filter fun r => r.file = file) file = startLines rs file := by
  simp only [startLines, List.filter_filter]
  refine congrArg _ (List.filter_congr fun r _ => ?_)
  cases decide (r.file = file) <;> simp

lemma filter_file_tldrIssues_alone :
    ((tldrIssues o (rs.filter fun r => r.file = file)).filter fun i => i.file = file) =
      tldrIssues o (rs.filter fun r => r.file = file) := by
  rw [List.filter_eq_self]
  intro i hi
  obtain ⟨r, hr, hfile⟩ := List.mem_map.1 (tldrIssues_file o i hi)
  rw [← hfile]
  exact (List.mem_filter.1 hr).2

end Alone

end Blocks

/-- The issues about summaries are the blocks of the files, by first summary, and the issues of a
file are what its own records alone would give. -/
theorem tldrIssues_exact (o : Options) (rs : List Record) :
    tldrIssues o rs =
        ((summarizedFiles rs).flatMap fun file => fileIssues o file (startLines rs file)) ∧
      ∀ file, ((tldrIssues o rs).filter fun i => i.file = file) =
        tldrIssues o (rs.filter fun r => r.file = file) := by
  refine ⟨tldrIssues_eq_blocks o rs, fun file => ?_⟩
  calc (tldrIssues o rs).filter fun i => i.file = file
      = fileIssues o file (startLines rs file) := filter_file_tldrIssues o rs file
    _ = fileIssues o file (startLines (rs.filter fun r => r.file = file) file) := by
        rw [startLines_alone]
    _ = (tldrIssues o (rs.filter fun r => r.file = file)).filter fun i => i.file = file :=
        (filter_file_tldrIssues o _ file).symm
    _ = tldrIssues o (rs.filter fun r => r.file = file) := filter_file_tldrIssues_alone o rs file

/-- Two files take turns; each has its own limit. -/
example :
    (tldrIssues .standard
      [Record.new "a.ts" 30 "tldr", Record.new "b.MD" 50 "TLDR", Record.new "a.ts" 2 "Tldr",
        Record.new "b.MD" 51 "tldr", Record.new "a.ts" 20 "note"]).map
      (fun i => (i.location, i.rule)) =
      [("a.ts:2", .multipleTldr), ("a.ts:30", .tldrPosition), ("b.MD:51", .multipleTldr),
        ("b.MD:51", .tldrPosition)] := by
  decide +kernel

end Check
end Waymark
