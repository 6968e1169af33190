import Waymark.Doc.Slash
import Waymark.Proofs.Doc.Basic

/-! Comments of slash lines: wrapped content is one comment again, with the same marker and the
same content. -/
namespace Waymark
namespace Doc
namespace Slash

open Text Format

lemma undecorate_isSuffix (m : Marker) (l : List Char) : undecorate m l <:+ l :=
  (dropSpace_isSuffix _).trans ((List.drop_suffix _ _).trans (trimStart_isSuffix l))

/-- What a comment that was found is made of. -/
lemma extract_eq_some {text : List Char} {d : Comment} (h : extract text = some d) :
    d.language = .rust ∧ ∃ (m : Marker) (block : List Line), d.format = m.format ∧
      (∀ l ∈ block, l ∈ rawLines text) ∧
      d.content = normalize (block.map fun l => undecorate m l.body) := by
  simp only [extract, List.span_eq_takeWhile_dropWhile] at h
  split at h
  · cases h
  · rename_i m _
    obtain rfl := Option.some.inj h
    refine ⟨rfl, m, _, rfl, ?_, rfl⟩
    intro l hl
    exact (List.dropWhile_sublist _).subset ((List.takeWhile_sublist _).subset hl)

/-- A text made of lines with one marker is one comment that documents its file. -/
lemma extract_of_marker {text : List Char} {m : Marker} (hne : rawLines text ≠ [])
    (h : ∀ l ∈ rawLines text, marker? l.body = some m) :
    extract text = some
      { language := .rust
        kind := .file
        format := m.format
        raw := joinRaw (rawLines text)
        content := normalize ((lines text).map (undecorate m))
        startLine := 1
        endLine := (lines text).length } := by
  have hhead : ((rawLines text).head?.bind fun l => marker? l.body) = some m := by
    cases hr : rawLines text with
    | nil => exact absurd hr hne
    | cons l ls => exact h l (by simp [hr])
  have hkind : kind m [] [] = .file := by cases m <;> rfl
  have hbody : ((rawLines text).map fun l => undecorate m l.body) =
      (lines text).map (undecorate m) := by
    rw [lines, List.map_map]
    rfl
  rw [extract, span_of_neg (fun l hl => by simp [h l hl])]
  dsimp only
  rw [hhead]
  dsimp only
  rw [span_of_pos (fun l hl => by simp [h l hl])]
  simp [hkind, hbody, lines]

lemma isMarker (m : Marker) : IsMarker m.text := by
  cases m <;> constructor <;> decide

/-- Neither a fourth slash nor another marker can come about. -/
lemma marker?_decorate (m : Marker) (l : List Char) : marker? (decorate m.text l) = some m := by
  rw [marker?, (isMarker m).trimStart_decorate]
  by_cases h : l = []
  · subst h
    cases m <;> rfl
  · rw [decorate_of_ne_nil h]
    cases m <;> rfl

theorem extract_wrap {text : List Char} {d : Comment} (h : extract text = some d)
    (hne : d.content ≠ []) :
    extract (d.format.wrap d.content) = some
      { d with
        kind := .file
        raw := d.format.wrap d.content
        startLine := 1
        endLine := (lines d.content).length } := by
  obtain ⟨hlanguage, m, block, hformat, hblock, hcontent⟩ := extract_eq_some h
  have hc : IsContent d.content := by
    rw [hcontent]
    apply isContent_normalize
    intro l hl hn
    obtain ⟨x, hx, rfl⟩ := List.mem_map.1 hl
    exact newline_notMem_of_mem_lines (List.mem_map_of_mem (hblock x hx))
      ((undecorate_isSuffix m _).subset hn)
  have hw : d.format.wrap d.content = marked m.text d.content := by
    rw [hformat]
    cases m <;> rfl
  have hall : ∀ l ∈ rawLines (marked m.text d.content), marker? l.body = some m := by
    intro l hl
    obtain ⟨x, -, hx⟩ := (isMarker m).body_of_mem hc hl
    rw [hx, marker?_decorate]
  have hu : normalize ((lines (marked m.text d.content)).map (undecorate m)) = d.content :=
    (isMarker m).normalize_undecorate hc
  rw [hw, extract_of_marker ((isMarker m).rawLines_marked_ne_nil hc hne) hall,
    (isMarker m).joinRaw_marked hc, hu, (isMarker m).lines_marked hc, List.length_map, hlanguage,
    hformat]

end Slash
end Doc
end Waymark
