import ScriptCheck.Proofs.Editor.Range
import ScriptCheck.Proofs.Editor.Replacement
import ScriptCheck.Proofs.Text.Units

/-! The characters a location means are those that its range covers, whatever its numbers are.
A line or a column that the text does not have is moved to the nearest it has. -/

namespace ScriptCheck

/-- Whether a location means the character of its line at a column. -/
def Location.covers (location : Location) (column : Nat) : Bool :=
  match location.column, location.endColumn with
  | some first, some stop => first ≤ column ∧ column < stop
  | some first, none => column = first
  | none, _ => true

def Location.charsOn (location : Location) (line : List Char) : List Char :=
  ((line.zipIdx 1).filter fun (_, column) => location.covers column).map Prod.fst

namespace Editor

open Text

variable {text : String} {line : List Char} {index : Nat}

theorem filter_zipIdx (s : List Char) (k a b : Nat) :
    ((s.zipIdx k).filter fun (_, i) => a ≤ i ∧ i < b).map Prod.fst =
      (s.take (b - k)).drop (a - k) := by
  induction s generalizing k with
  | nil => simp
  | cons c s ih =>
    have hrest := ih (k + 1)
    rw [List.zipIdx_cons, List.filter_cons]
    by_cases hb : k < b
    · have htake : (c :: s).take (b - k) = c :: s.take (b - (k + 1)) := by
        rw [show b - k = (b - (k + 1)) + 1 by omega, List.take_succ_cons]
      by_cases ha : a ≤ k
      · rw [Nat.sub_eq_zero_of_le (Nat.le_succ_of_le ha), List.drop_zero] at hrest
        rw [if_pos (decide_eq_true ⟨ha, hb⟩), List.map_cons, hrest, htake,
          Nat.sub_eq_zero_of_le ha, List.drop_zero]
      · rw [if_neg (by simp [ha]), hrest, htake, show a - k = (a - (k + 1)) + 1 by omega,
          List.drop_succ_cons]
    · have hnone : b - k = 0 := by omega
      rw [if_neg (by simp [hb]), hrest, hnone, show b - (k + 1) = 0 by omega]
      simp

theorem extent_eq (location : Location) (line : List Char) : ∃ first last,
    extent location line = (offset line first, offset line last) ∧
      (line.take last).drop first = location.charsOn line := by
  obtain ⟨file, number, column, endColumn⟩ := location
  cases column with
  | none =>
    refine ⟨0, line.length, ?_, ?_⟩
    · show ((0 : UInt32), width line) = _
      unfold offset unitsOfFirst
      rw [List.take_length]
      rfl
    · rw [List.take_length, List.drop_zero]
      simp [Location.charsOn, Location.covers]
  | some column =>
    cases endColumn with
    | none =>
      refine ⟨column - 1, column, rfl, ?_⟩
      have hone : ∀ i, decide (i = column) = decide (column ≤ i ∧ i < column + 1) := fun i =>
        decide_eq_decide.mpr (by omega)
      simp only [Location.charsOn, Location.covers, hone]
      rw [filter_zipIdx, Nat.add_sub_cancel]
    | some endColumn => exact ⟨column - 1, endColumn - 1, rfl, (filter_zipIdx ..).symm⟩

/-- A range on one line, which covers some of its characters and no half of one. -/
structure Range.Covers (r : Range) (index : Nat) (line chars : List Char) : Prop where
  startLine : r.start.line.toNat = index
  stopLine : r.stop.line.toNat = index
  ordered : r.start.character.toNat ≤ r.stop.character.toNat
  bounded : r.stop.character.toNat ≤ (utf16 line).length
  startWhole : ¬ SplitsPair (utf16 line) r.start.character.toNat
  stopWhole : ¬ SplitsPair (utf16 line) r.stop.character.toNat
  cut : ((utf16 line).take r.stop.character.toNat).drop r.start.character.toNat = utf16 chars

def Position.AtMost (p q : Position) : Prop :=
  p.line < q.line ∨ p.line = q.line ∧ p.character ≤ q.character

structure Range.Within (inner outer : Range) : Prop where
  start : outer.start.AtMost inner.start
  stop : inner.stop.AtMost outer.stop

theorem take_max_drop (s : List Char) (i j : Nat) :
    (s.take (max i j)).drop i = (s.take j).drop i := by
  rw [List.drop_take, List.drop_take]
  congr 1
  omega

theorem covers_rangeOf (location : Location) (hshort : units text.toList < limit32)
    (hindex : lineIndex location (splitLines text.toList) = index)
    (hline : (splitLines text.toList).getD index [] = line) :
    (rangeOf location text).Covers index line (location.charsOn line) := by
  obtain ⟨first, last, hextent, hchars⟩ := extent_eq location line
  have hrange := rangeOf_isOn_of_extent hshort hindex hline hextent
  have hcut : ((utf16 line).take (units (line.take (max first last)))).drop
      (units (line.take first)) = utf16 (location.charsOn line) := by
    have hfirst : line.take first = (line.take (max first last)).take first := by
      rw [List.take_take, Nat.min_eq_left (Nat.le_max_left _ _)]
    rw [take_utf16, hfirst, drop_utf16, take_max_drop, hchars]
  constructor
  · exact hrange.startLine
  · exact hrange.stopLine
  · rw [hrange.startCharacter, hrange.stopCharacter]
    exact units_take_le line (Nat.le_max_left _ _)
  · rw [hrange.stopCharacter, length_utf16]
    exact unitsOfFirst_le line _
  · rw [hrange.startCharacter]
    exact not_splitsPair line first
  · rw [hrange.stopCharacter]
    exact not_splitsPair line _
  · rw [hrange.startCharacter, hrange.stopCharacter]
    exact hcut

theorem atMost_iff {p q : Position} : p.AtMost q ↔ p.line.toNat < q.line.toNat ∨
    p.line.toNat = q.line.toNat ∧ p.character.toNat ≤ q.character.toNat := by
  unfold Position.AtMost
  rw [UInt32.lt_iff_toNat_lt, UInt32.le_iff_toNat_le, UInt32.toNat_inj]

theorem lineIndex_lt_or_eq (location : Location) {lines front : List (List Char)}
    {last : List Char} (hlines : lines = front ++ unlessEmpty last) :
    lineIndex location lines < front.length ∨
      lineIndex location lines = front.length ∧
        lines.getD (lineIndex location lines) [] = last := by
  have hlength : lines.length ≤ front.length + 1 := by
    rw [hlines, List.length_append]
    cases last <;> simp [unlessEmpty]
  have hindex : lineIndex location lines ≤ front.length := by
    unfold lineIndex
    omega
  refine (Nat.lt_or_eq_of_le hindex).imp_right fun heq => ⟨heq, ?_⟩
  rw [heq, hlines, List.getD_eq_getElem?_getD, List.getElem?_append_right (Nat.le_refl _),
    Nat.sub_self]
  cases last <;> rfl

theorem within_fullRange (location : Location) (hshort : units text.toList < limit32) :
    (rangeOf location text).Within (fullRange text) := by
  have hcovers := covers_rangeOf location hshort rfl rfl
  obtain ⟨front, before, last, hlines, hpieces, hlength⟩ := splitLines_eq text.toList
  obtain ⟨hstopLine, hstopCharacter⟩ := stop_fullRange hpieces hshort
  constructor
  · rw [atMost_iff]
    exact (Nat.eq_zero_or_pos _).symm.imp_right fun hzero => ⟨hzero.symm, Nat.zero_le _⟩
  · rw [atMost_iff, hcovers.stopLine, hstopLine, hstopCharacter, ← hlength]
    refine (lineIndex_lt_or_eq location hlines).imp_right fun ⟨hindex, hlast⟩ => ⟨hindex, ?_⟩
    rw [← hlast, ← length_utf16]
    exact hcovers.bounded

/-- The mark of a diagnostic lies in the document, on the line that the diagnostic names or the
nearest one there is, and covers the characters meant on it. -/
theorem mark_covers (d : Diagnostic) (hshort : units text.toList < limit32) :
    let lines := splitLines text.toList
    let index := min (max d.location.line 1) (max 1 lines.length) - 1
    let line := lines.getD index []
    (Mark.of d text).range.Covers index line (d.location.charsOn line) ∧
      (Mark.of d text).range.Within (fullRange text) := by
  intro lines index line
  have hindex : lineIndex d.location lines = index := by
    unfold lineIndex
    omega
  exact ⟨covers_rangeOf d.location hshort hindex rfl, within_fullRange d.location hshort⟩

theorem mark_covers_single :
    let d : Diagnostic := ⟨"fish", "syntax-error", "", .error, ⟨⟨"a.fish"⟩, 7, some 3, none⟩⟩
    let text := "a\r\nxy𝄞z"
    units text.toList < limit32 ∧ (Mark.of d text).range = ⟨⟨1, 2⟩, ⟨1, 4⟩⟩ ∧
      (Mark.of d text).range.Covers 1 "xy𝄞z".toList ['𝄞'] ∧
      (Mark.of d text).range.Within (fullRange text) := by
  intro d _
  have hshort : units "a\r\nxy𝄞z".toList < limit32 := by decide
  obtain ⟨hcovers, hwithin⟩ := mark_covers d hshort
  exact ⟨hshort, by decide, hcovers, hwithin⟩

end Editor

end ScriptCheck
