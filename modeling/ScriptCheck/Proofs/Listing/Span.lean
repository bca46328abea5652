import ScriptCheck.Proofs.Listing.Diagnostics
import ScriptCheck.Proofs.Text.Blank
import ScriptCheck.Proofs.Text.Cells

/-! The columns that a line of markers gives. When the markers stand under the cells of some
characters of the line before, the columns are those of the characters. -/

namespace ScriptCheck.Listing

open Text

variable {s marks markers header : List Char} {above below : List (List Char)} {i j : Nat}

/-- Markers under the cells of the characters of a line from one to another, both of which
can be seen. -/
structure PointsAt (s marks : List Char) (i j : Nat) : Prop where
  ordered : i ≤ j
  inside : j < s.length
  first : 0 < cellWidth s[i]
  last : 0 < cellWidth s[j]
  shape : ∃ markers, marks = List.replicate (cells (s.take i)) ' ' ++ markers ∧
    markers.length = cells ((s.drop i).take (j + 1 - i)) ∧ (∀ c ∈ markers, isMarker c) ∧
      '^' ∈ markers

def IsCaretLine (s : List Char) : Prop := '^' ∈ s ∧ ∀ c ∈ s, isBlank c ∨ isMarker c

instance (s : List Char) : Decidable (IsCaretLine s) :=
  @instDecidableAnd _ _ _ (List.decidableBAll _ s)

theorem IsCaretLine.not_reads (hs : IsCaretLine s) (h : Header) : ¬ h.Reads s := by
  intro hr
  have hparen : '(' ∈ h.file ++ (opening ++ (h.digits ++ (closing ++ h.message))) :=
    List.mem_append_right _ (List.mem_append_left _ (by decide))
  rw [← hr.spelled] at hparen
  exact absurd (hs.2 '(' hparen) (by decide)

theorem isBlank_eq_false_of_isMarker {c : Char} (hc : isMarker c) : isBlank c = false := by
  unfold isMarker at hc
  rcases Bool.or_eq_true_iff.mp hc with hc | hc
  · rw [of_decide_eq_true hc]
    decide
  · rw [of_decide_eq_true hc]
    decide

theorem trimEnd_of_markers {front : List Char} (hmarkers : ∀ c ∈ markers, isMarker c)
    (hne : markers ≠ []) : trimEnd (front ++ markers) = front ++ markers := by
  obtain ⟨init, c, rfl⟩ := (List.eq_nil_or_concat' markers).resolve_left hne
  have hc : ¬ isBlank c := by
    rw [isBlank_eq_false_of_isMarker (hmarkers c (List.mem_append_right init List.mem_cons_self))]
    decide
  rw [← List.append_assoc]
  exact trimEnd_append_cons _ hc []

theorem markedCells?_eq_none (hs : ¬ IsCaretLine s) : markedCells? s = none := by
  obtain ⟨blanks, hsplit, hblanks⟩ := exists_trimEnd_append s
  unfold markedCells?
  dsimp only
  refine if_neg fun hcond => hs ?_
  obtain ⟨hcaret, hall⟩ := Bool.and_eq_true_iff.mp hcond
  have hmem : '^' ∈ trimEnd s := List.contains_iff_mem.mp hcaret
  rw [hsplit]
  refine ⟨List.mem_append_left _ hmem, ?_⟩
  intro c hc
  rcases List.mem_append.mp hc with hc | hc
  · exact Bool.or_eq_true_iff.mp (List.all_eq_true.mp hall c hc)
  · exact .inl (hblanks c hc)

theorem markedCells?_of_markers (w : Nat) (hmarkers : ∀ c ∈ markers, isMarker c)
    (hcaret : '^' ∈ markers) :
    markedCells? (List.replicate w ' ' ++ markers) = some (w, w + markers.length - 1) := by
  have hne : markers ≠ [] := List.ne_nil_of_mem hcaret
  have hall : ∀ c ∈ List.replicate w ' ' ++ markers, (isBlank c || isMarker c) = true := by
    intro c hc
    rcases List.mem_append.mp hc with hc | hc
    · rw [List.eq_of_mem_replicate hc]
      decide
    · rw [hmarkers c hc, Bool.or_true]
  have hblanks : (List.replicate w ' ' ++ markers).takeWhile isBlank = List.replicate w ' ' := by
    obtain ⟨c, rest, rfl⟩ := List.exists_cons_of_ne_nil hne
    have hc := isBlank_eq_false_of_isMarker (hmarkers c List.mem_cons_self)
    rw [List.takeWhile_append_of_pos, List.takeWhile_cons_of_neg, List.append_nil]
    · rw [hc]
      decide
    · intro b hb
      rw [List.eq_of_mem_replicate hb]
      decide
  unfold markedCells?
  rw [trimEnd_of_markers hmarkers hne]
  dsimp only
  rw [if_pos, hblanks, List.length_append, List.length_replicate]
  rw [Bool.and_eq_true]
  exact ⟨List.contains_iff_mem.mpr (List.mem_append_right _ hcaret), List.all_eq_true.mpr hall⟩

namespace PointsAt

theorem isCaretLine (hp : PointsAt s marks i j) : IsCaretLine marks := by
  obtain ⟨markers, rfl, -, hmarkers, hcaret⟩ := hp.shape
  refine ⟨List.mem_append_right _ hcaret, fun c hc => ?_⟩
  rcases List.mem_append.mp hc with hc | hc
  · rw [List.eq_of_mem_replicate hc]
    exact .inl (by decide)
  · exact .inr (hmarkers c hc)

theorem not_reads (hp : PointsAt s marks i j) (h : Header) : ¬ h.Reads marks :=
  hp.isCaretLine.not_reads h

theorem markedCells?_eq (hp : PointsAt s marks i j) :
    markedCells? marks = some (cells (s.take i), cells (s.take (j + 1)) - 1) := by
  obtain ⟨markers, rfl, hlength, hmarkers, hcaret⟩ := hp.shape
  have hcells : cells (s.take (j + 1)) = cells (s.take i) + markers.length := by
    rw [hlength, ← cells_take_add, Nat.add_sub_cancel' (Nat.le_succ_of_le hp.ordered)]
  rw [markedCells?_of_markers _ hmarkers hcaret, hcells]

theorem columns_eq (hp : PointsAt s marks i j) :
    columns s (cells (s.take i), cells (s.take (j + 1)) - 1) = (i + 1, j + 2) := by
  unfold columns
  dsimp only
  rw [charAtCell_first _ hp.first, charAtCell_last _ hp.last]

theorem span?_eq (hp : PointsAt s marks i j) (hs : ∀ h : Header, ¬ h.Reads s)
    (hcaret : ¬ IsCaretLine s) : span? (s :: marks :: below) = some (i + 1, j + 2) := by
  have hsource : isHeader s = false := by
    rw [Bool.eq_false_iff, ne_eq, isHeader_iff]
    exact fun ⟨h, hr⟩ => hs h hr
  have hmarks : isHeader marks = false := by
    rw [Bool.eq_false_iff, ne_eq, isHeader_iff]
    exact fun ⟨h, hr⟩ => hp.not_reads h hr
  have hbelow : ((s :: marks :: below).take 2).takeWhile (fun line => !isHeader line) =
      [s, marks] := by
    simp [hsource, hmarks]
  unfold span?
  rw [hbelow]
  dsimp only
  rw [markedCells?_eq_none hcaret, hp.markedCells?_eq]
  exact congrArg some hp.columns_eq

end PointsAt
end ScriptCheck.Listing
