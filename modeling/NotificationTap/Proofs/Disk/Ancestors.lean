import NotificationTap.Disk.Path

/-!
# Paths of the directories around a path

* `pieces_append_slash`, `slash_not_mem_of_mem_pieces`: how a text falls into pieces.
* `pieces_of_mem_stageTexts`: a text that ends after a name has the first pieces of the whole text.
* `FilePath.mem_ancestors`: an ancestor starts where the path starts, and passes through some of its
  names before the last one.
-/

namespace NotificationTap.FilePath

/-! ## Pieces -/

theorem pieces_ne_nil (text : List Char) : pieces text ≠ [] := by
  cases text with
  | nil => simp [pieces]
  | cons c rest =>
    rw [pieces]
    split
    · simp
    · split <;> simp

theorem pieces_of_slash_not_mem {piece : List Char} (h : '/' ∉ piece) : pieces piece = [piece] := by
  induction piece with
  | nil => rfl
  | cons c rest ih =>
    obtain ⟨hc, hrest⟩ := List.ne_and_not_mem_of_not_mem_cons h
    rw [pieces, if_neg hc.symm, ih hrest]

theorem pieces_append_slash {piece : List Char} (h : '/' ∉ piece) (rest : List Char) :
    pieces (piece ++ '/' :: rest) = piece :: pieces rest := by
  induction piece with
  | nil => rw [List.nil_append, pieces, if_pos rfl]
  | cons c piece ih =>
    obtain ⟨hc, hpiece⟩ := List.ne_and_not_mem_of_not_mem_cons h
    rw [List.cons_append, pieces, if_neg hc.symm, ih hpiece]

theorem slash_not_mem_of_mem_pieces {text piece : List Char} (h : piece ∈ pieces text) :
    '/' ∉ piece := by
  induction text generalizing piece with
  | nil =>
    obtain rfl : piece = [] := by simpa [pieces] using h
    exact List.not_mem_nil
  | cons c rest ih =>
    rw [pieces] at h
    by_cases hc : c = '/'
    · rw [if_pos hc] at h
      rcases List.mem_cons.mp h with rfl | h
      · exact List.not_mem_nil
      · exact ih h
    · rw [if_neg hc] at h
      cases hp : pieces rest with
      | nil => exact absurd hp (pieces_ne_nil rest)
      | cons first others =>
        rw [hp] at h ih
        rcases List.mem_cons.mp h with rfl | h
        · exact List.not_mem_cons_of_ne_of_not_mem (Ne.symm hc) (ih List.mem_cons_self)
        · exact ih (List.mem_cons_of_mem _ h)

/-- Whether a text starts with a slash shows in its first piece. -/
theorem head?_pieces_iff {text : List Char} (h : text ≠ []) :
    (pieces text).head? = some [] ↔ text.head? = some '/' := by
  cases text with
  | nil => exact absurd rfl h
  | cons c rest =>
    rw [pieces]
    by_cases hc : c = '/'
    · simp [hc]
    · cases pieces rest <;> simp [hc]

/-! ## Stages -/

section

variable {piece text : List Char} {rest all : List (List Char)}

/-- A text ends after its first piece, if that is a name, or after a later one. -/
theorem of_mem_stageTexts_cons (h : text ∈ stageTexts (piece :: rest)) :
    piece.isEmpty = false ∧ text = piece ∨
      ∃ later ∈ stageTexts rest, text = piece ++ '/' :: later := by
  rw [stageTexts] at h
  by_cases hstay : (piece.isEmpty || piece = ['.']) = true
  · rw [if_pos hstay] at h
    obtain ⟨later, hmem, rfl⟩ := List.mem_map.mp h
    exact .inr ⟨later, hmem, rfl⟩
  · rw [if_neg hstay] at h
    rcases List.mem_cons.mp h with rfl | h
    · exact .inl ⟨by simpa using fun he => hstay (by simp [he]), rfl⟩
    · obtain ⟨later, hmem, rfl⟩ := List.mem_map.mp h
      exact .inr ⟨later, hmem, rfl⟩

/-- The last text does not end after the first piece if there is another one. -/
theorem of_mem_dropLast_stageTexts_cons (h : text ∈ (stageTexts (piece :: rest)).dropLast) :
    piece.isEmpty = false ∧ text = piece ∧ stageTexts rest ≠ [] ∨
      ∃ later ∈ (stageTexts rest).dropLast, text = piece ++ '/' :: later := by
  cases hlater : stageTexts rest with
  | nil =>
    rw [stageTexts, hlater] at h
    split at h <;> cases h
  | cons first others =>
    have hne : (stageTexts rest).map (piece ++ '/' :: ·) ≠ [] := by simp [hlater]
    have hmap : text ∈ ((stageTexts rest).map (piece ++ '/' :: ·)).dropLast →
        ∃ later ∈ (stageTexts rest).dropLast, text = piece ++ '/' :: later := by
      intro hin
      rw [← List.map_dropLast] at hin
      obtain ⟨later, hmem, rfl⟩ := List.mem_map.mp hin
      exact ⟨later, hmem, rfl⟩
    rw [← hlater]
    rw [stageTexts] at h
    by_cases hstay : (piece.isEmpty || piece = ['.']) = true
    · rw [if_pos hstay] at h
      exact .inr (hmap h)
    · rw [if_neg hstay, List.dropLast_cons_of_ne_nil hne] at h
      rcases List.mem_cons.mp h with rfl | h
      · refine .inl ⟨by simpa using fun he => hstay (by simp [he]), rfl, ?_⟩
        rw [hlater]
        exact List.cons_ne_nil first others
      · exact .inr (hmap h)

/-- A text that ends after a name has the first pieces of the whole text. -/
theorem pieces_of_mem_stageTexts (hall : ∀ piece ∈ all, '/' ∉ piece) (h : text ∈ stageTexts all) :
    pieces text <+: all ∧ (pieces text).filter (!·.isEmpty) ≠ [] := by
  induction all generalizing text with
  | nil => cases h
  | cons piece rest ih =>
    obtain ⟨hpiece, hrest⟩ := List.forall_mem_cons.mp hall
    rcases of_mem_stageTexts_cons h with ⟨hname, rfl⟩ | ⟨later, hmem, rfl⟩
    · rw [pieces_of_slash_not_mem hpiece]
      exact ⟨⟨rest, rfl⟩, by simp [hname]⟩
    · obtain ⟨hstart, hne⟩ := ih hrest hmem
      rw [pieces_append_slash hpiece]
      refine ⟨List.cons_prefix_cons.mpr ⟨rfl, hstart⟩, fun hnil => hne ?_⟩
      have := (List.sublist_cons_self piece (pieces later)).filter (!·.isEmpty)
      rw [hnil] at this
      exact List.sublist_nil.mp this

/-- There is a name wherever a text ends. -/
theorem filter_ne_nil_of_stageTexts (hall : ∀ piece ∈ all, '/' ∉ piece) (h : stageTexts all ≠ []) :
    all.filter (!·.isEmpty) ≠ [] := by
  intro hnil
  obtain ⟨text, hmem⟩ := List.exists_mem_of_ne_nil _ h
  obtain ⟨hstart, hne⟩ := pieces_of_mem_stageTexts hall hmem
  have := hstart.filter (!·.isEmpty)
  rw [hnil] at this
  exact hne (List.prefix_nil.mp this)

/-- A text that ends after a name, but not after the last one, misses the last name. -/
theorem pieces_of_mem_dropLast (hall : ∀ piece ∈ all, '/' ∉ piece)
    (h : text ∈ (stageTexts all).dropLast) :
    (pieces text).filter (!·.isEmpty) <+: (all.filter (!·.isEmpty)).dropLast := by
  induction all generalizing text with
  | nil => cases h
  | cons piece rest ih =>
    obtain ⟨hpiece, hrest⟩ := List.forall_mem_cons.mp hall
    rcases of_mem_dropLast_stageTexts_cons h with ⟨hname, rfl, hne⟩ | ⟨later, hmem, rfl⟩
    · have hrest' := filter_ne_nil_of_stageTexts hrest hne
      rw [pieces_of_slash_not_mem hpiece]
      simp only [List.filter_cons, hname, Bool.not_false, if_true, List.filter_nil]
      rw [List.dropLast_cons_of_ne_nil hrest']
      exact List.cons_prefix_cons.mpr ⟨rfl, List.nil_prefix⟩
    · have hne : stageTexts rest ≠ [] := List.ne_nil_of_mem (List.dropLast_subset _ hmem)
      rw [pieces_append_slash hpiece, List.filter_cons, List.filter_cons]
      split
      · rw [List.dropLast_cons_of_ne_nil (filter_ne_nil_of_stageTexts hrest hne)]
        exact List.cons_prefix_cons.mpr ⟨rfl, ih hrest hmem⟩
      · exact ih hrest hmem

end

/-! ## Ancestors -/

/-- An ancestor starts where the path starts, and passes through some of its names before the last
one. -/
theorem mem_ancestors {path ancestor : FilePath} (h : ancestor ∈ path.ancestors) :
    ancestor.isAbsolute = path.isAbsolute ∧ ancestor.names ≠ [] ∧
      ancestor.names <+: path.names.dropLast := by
  have hall : ∀ piece ∈ pieces path.text.toList, '/' ∉ piece :=
    fun _ => slash_not_mem_of_mem_pieces
  rw [ancestors, stages, ← List.map_dropLast] at h
  obtain ⟨text, hmem, rfl⟩ := List.mem_map.mp h
  obtain ⟨hstart, hne⟩ := pieces_of_mem_stageTexts hall (List.dropLast_subset _ hmem)
  have hnames : (⟨String.ofList text⟩ : FilePath).names =
      ((pieces text).filter (!·.isEmpty)).map String.ofList := by
    rw [names, String.toList_ofList]
  refine ⟨?_, ?_, ?_⟩
  · have htext : text ≠ [] := by
      rintro rfl
      exact hne (by simp [pieces])
    have hpath : path.text.toList ≠ [] := by
      intro hnil
      rw [hnil] at hstart
      have : (pieces text).filter (!·.isEmpty) <+: [] := hstart.filter (!·.isEmpty)
      exact hne (List.prefix_nil.mp this)
    have hhead : (pieces text).head? = (pieces path.text.toList).head? := by
      rw [List.head?_eq_some_head (pieces_ne_nil _), hstart.head (pieces_ne_nil text),
        List.head?_eq_some_head]
    rw [isAbsolute, isAbsolute, String.toList_ofList, decide_eq_decide, ← head?_pieces_iff htext,
      ← head?_pieces_iff hpath, hhead]
  · rw [hnames]
    simpa using hne
  · rw [hnames, names, ← List.map_dropLast]
    exact (pieces_of_mem_dropLast hall hmem).map _

example : ancestors ⟨"/x/./y.toml"⟩ = [⟨"/x"⟩] := by decide +kernel

end NotificationTap.FilePath
