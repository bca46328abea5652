import Mathlib.Algebra.Ring.Nat
import ScriptCheck.Text.Cells

/-! From a character to its cells and back. A cell within a run of characters leads to the one
character that covers it, whatever the widths are, and a cell past the run to where it would be if
characters of one cell each followed. So characters that take no cell are never met. -/

namespace ScriptCheck.Text

variable {widths : List Nat} {s : List Char} {i k cell w : Nat}

def Covers (widths : List Nat) (i cell : Nat) : Prop :=
  ∃ w, widths[i]? = some w ∧ (widths.take i).sum ≤ cell ∧ cell < (widths.take i).sum + w

theorem Covers.lt_length (hcovers : Covers widths i cell) : i < widths.length := by
  obtain ⟨_, hw, -⟩ := hcovers
  exact (List.getElem?_eq_some_iff.mp hw).1

theorem Covers.pos (hcovers : Covers widths i cell) (hw : widths[i]? = some w) : 0 < w := by
  obtain ⟨v, hv, hfirst, hlast⟩ := hcovers
  obtain rfl : v = w := Option.some.inj (hv.symm.trans hw)
  omega

theorem covers_cons_zero : Covers (w :: widths) 0 cell ↔ cell < w := by
  simp [Covers]

theorem covers_cons_succ :
    Covers (w :: widths) (i + 1) cell ↔ w ≤ cell ∧ Covers widths i (cell - w) := by
  unfold Covers
  simp only [List.getElem?_cons_succ, List.take_succ_cons, List.sum_cons]
  constructor
  · rintro ⟨v, hv, hfirst, hlast⟩
    exact ⟨by omega, v, hv, by omega, by omega⟩
  · rintro ⟨hle, v, hv, hfirst, hlast⟩
    exact ⟨v, hv, by omega, by omega⟩

theorem indexAtCell_eq_iff (hi : i < widths.length) :
    indexAtCell widths cell = i ↔ Covers widths i cell := by
  induction widths generalizing i cell with
  | nil => cases hi
  | cons w widths ih =>
    unfold indexAtCell
    cases i with
    | zero =>
      rw [covers_cons_zero]
      split <;> simp_all
    | succ i =>
      rw [covers_cons_succ, ← ih (Nat.lt_of_succ_lt_succ hi)]
      split <;> simp <;> omega

theorem indexAtCell_of_sum_le (hpast : widths.sum ≤ cell) :
    indexAtCell widths cell = widths.length + (cell - widths.sum) := by
  induction widths generalizing cell with
  | nil => simp [indexAtCell]
  | cons w widths ih =>
    rw [List.sum_cons] at hpast ⊢
    have hrest : widths.sum ≤ cell - w := by omega
    rw [indexAtCell, if_neg (by omega), ih hrest, List.length_cons]
    omega

theorem indexAtCell_lt_length (hwithin : cell < widths.sum) :
    indexAtCell widths cell < widths.length := by
  induction widths generalizing cell with
  | nil => cases hwithin
  | cons w widths ih =>
    rw [List.sum_cons] at hwithin
    unfold indexAtCell
    split
    · exact Nat.succ_pos _
    · exact Nat.succ_lt_succ (ih (by omega))

theorem indexAtCell_mono (widths : List Nat) {a b : Nat} (hab : a ≤ b) :
    indexAtCell widths a ≤ indexAtCell widths b := by
  induction widths generalizing a b with
  | nil => exact hab
  | cons w widths ih =>
    unfold indexAtCell
    by_cases ha : a < w
    · simp [ha]
    · have hb : ¬ b < w := fun hb => ha (Nat.lt_of_le_of_lt hab hb)
      have hrest := ih (Nat.sub_le_sub_right hab w)
      simpa [ha, hb] using hrest

theorem indexAtCell_of_single (hsingle : ∀ w ∈ widths, w = 1) (cell : Nat) :
    indexAtCell widths cell = cell := by
  induction widths generalizing cell with
  | nil => rfl
  | cons w widths ih =>
    obtain ⟨rfl, hrest⟩ := List.forall_mem_cons.mp hsingle
    rw [indexAtCell, ih hrest]
    split <;> omega

/-- A way from cells to characters of some widths. -/
structure FindsCover (widths : List Nat) (index : Nat → Nat) : Prop where
  within : ∀ cell < widths.sum, Covers widths (index cell) cell ∧
    ∀ i, Covers widths i cell → i = index cell
  beyond : ∀ cell, widths.sum ≤ cell → index cell = widths.length + (cell - widths.sum)
  mono : ∀ a b, a ≤ b → index a ≤ index b
  exactly : ∀ i w, widths[i]? = some w → 0 < w → ∀ cell, index cell = i ↔ Covers widths i cell
  widthless : ∀ i, widths[i]? = some 0 → ∀ cell, index cell ≠ i
  single : (∀ w ∈ widths, w = 1) → ∀ cell, index cell = cell

theorem findsCover_indexAtCell (widths : List Nat) :
    FindsCover widths (indexAtCell widths) where
  within cell hwithin :=
    ⟨(indexAtCell_eq_iff (indexAtCell_lt_length hwithin)).mp rfl,
      fun _ hcovers => ((indexAtCell_eq_iff hcovers.lt_length).mpr hcovers).symm⟩
  beyond _ := indexAtCell_of_sum_le
  mono _ _ := indexAtCell_mono widths
  exactly i w hw _ cell := indexAtCell_eq_iff (List.getElem?_eq_some_iff.mp hw).1
  widthless i hw cell hindex := by
    have hcovers := (indexAtCell_eq_iff (List.getElem?_eq_some_iff.mp hw).1).mp hindex
    exact absurd (hcovers.pos hw) (Nat.lt_irrefl 0)
  single := indexAtCell_of_single

theorem cells_eq_sum (s : List Char) : cells s = (s.map cellWidth).sum := by
  induction s with
  | nil => rfl
  | cons c s ih =>
    rw [List.map_cons, List.sum_cons, ← ih]
    rfl

theorem cells_append (s t : List Char) : cells (s ++ t) = cells s + cells t := by
  simp only [cells_eq_sum, List.map_append, List.sum_append]

theorem cells_take_succ (hi : i < s.length) :
    cells (s.take (i + 1)) = cells (s.take i) + cellWidth s[i] := by
  rw [List.take_add_one, List.getElem?_eq_getElem hi, cells_append]
  rfl

theorem cells_take_add (s : List Char) (i m : Nat) :
    cells (s.take (i + m)) = cells (s.take i) + cells ((s.drop i).take m) := by
  rw [List.take_add, cells_append]

theorem charAtCell_add (hi : i < s.length) (hk : k < cellWidth s[i]) :
    charAtCell s (cells (s.take i) + k) = i := by
  have hwidth : (s.map cellWidth)[i]? = some (cellWidth s[i]) := by
    rw [List.getElem?_map, List.getElem?_eq_getElem hi, Option.map_some]
  unfold charAtCell
  rw [indexAtCell_eq_iff (by rwa [List.length_map]), cells_eq_sum, List.map_take]
  exact ⟨cellWidth s[i], hwidth, Nat.le_add_right _ _, Nat.add_lt_add_left hk _⟩

theorem charAtCell_first (hi : i < s.length) (hwidth : 0 < cellWidth s[i]) :
    charAtCell s (cells (s.take i)) = i := charAtCell_add (k := 0) hi hwidth

theorem charAtCell_last (hi : i < s.length) (hwidth : 0 < cellWidth s[i]) :
    charAtCell s (cells (s.take (i + 1)) - 1) = i := by
  have hlast : cells (s.take (i + 1)) - 1 = cells (s.take i) + (cellWidth s[i] - 1) := by
    rw [cells_take_succ hi, Nat.add_sub_assoc hwidth]
  rw [hlast, charAtCell_add hi (Nat.sub_lt hwidth Nat.one_pos)]

theorem charAtCell_mono (s : List Char) {a b : Nat} (hab : a ≤ b) :
    charAtCell s a ≤ charAtCell s b := indexAtCell_mono (s.map cellWidth) hab

theorem cellWidth_of_isControl {c : Char}
    (hc : c.toNat < 0x20 ∨ 0x7f ≤ c.toNat ∧ c.toNat < 0xa0) : cellWidth c = 1 := by
  unfold cellWidth
  exact if_pos (.inl (by omega))

/-- A cell leads to the character over it, for characters of any widths and so for those of a text,
where control characters take one cell. -/
theorem findsCover_charAtCell :
    (∀ widths, FindsCover widths (indexAtCell widths)) ∧
    (∀ s, FindsCover (s.map cellWidth) (charAtCell s)) ∧
    ∀ c : Char, c.toNat < 0x20 ∨ 0x7f ≤ c.toNat ∧ c.toNat < 0xa0 → cellWidth c = 1 :=
  ⟨findsCover_indexAtCell, fun s => findsCover_indexAtCell (s.map cellWidth),
    fun _ => cellWidth_of_isControl⟩

theorem findsCover_charAtCell_mixed :
    let s := ['\t', 'e', '\u0301', '🐟', 'x']
    FindsCover (s.map cellWidth) (charAtCell s) ∧ cellWidth '\t' = 1 ∧
      s.map cellWidth = [1, 1, 0, 2, 1] ∧
      (List.range 7).map (charAtCell s) = [0, 1, 3, 3, 4, 5, 6] := by
  intro s
  obtain ⟨-, hline, hcontrol⟩ := findsCover_charAtCell
  exact ⟨hline s, hcontrol '\t' (.inl (by decide)), by decide +kernel, by decide +kernel⟩

end ScriptCheck.Text
