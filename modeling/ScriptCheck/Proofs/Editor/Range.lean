import ScriptCheck.Editor.Range
import ScriptCheck.Proofs.Listing.Span

/-! Where an editor shows what a listing points at. The markers count cells, the diagnostic
counts characters, and the editor counts UTF-16 units; they agree on the characters meant. -/

namespace ScriptCheck.Editor

open Text Listing

variable {text : String} {s : List Char} {location : Location} {n i j : Nat}

theorem toNat_offset (hshort : units s < limit32) (i : Nat) :
    (offset s i).toNat = units (s.take i) :=
  UInt32.toNat_ofNat_of_lt' (Nat.lt_of_le_of_lt (unitsOfFirst_le s i) hshort)

theorem toNat_max (a b : UInt32) : (max a b).toNat = max a.toNat b.toNat := by
  show (if a ≤ b then b else a).toNat = if a.toNat ≤ b.toNat then b.toNat else a.toNat
  simp only [UInt32.le_iff_toNat_le]
  split <;> rfl

theorem units_take_le (s : List Char) (hij : i ≤ j) : units (s.take i) ≤ units (s.take j) := by
  have hle := unitsOfFirst_le (s.take j) i
  unfold unitsOfFirst at hle
  rwa [List.take_take, Nat.min_eq_left hij] at hle

structure Range.IsOn (r : Range) (line start stop : Nat) : Prop where
  startLine : r.start.line.toNat = line
  startCharacter : r.start.character.toNat = start
  stopLine : r.stop.line.toNat = line
  stopCharacter : r.stop.character.toNat = stop

theorem toNat_max_offset (hshort : units s < limit32) (i j : Nat) :
    (max (offset s j) (offset s i)).toNat = units (s.take (max i j)) := by
  rw [toNat_max, toNat_offset hshort, toNat_offset hshort]
  rcases Nat.le_total i j with hij | hji
  · rw [Nat.max_eq_left (units_take_le s hij), Nat.max_eq_right hij]
  · rw [Nat.max_eq_right (units_take_le s hji), Nat.max_eq_left hji]

theorem units_getD_le (s : List Char) (n : Nat) :
    units ((splitLines s).getD n []) ≤ units s := by
  rw [List.getD_eq_getElem?_getD]
  cases hline : (splitLines s)[n]? with
  | none => exact Nat.zero_le _
  | some line => exact units_le_of_mem_splitLines (List.mem_of_getElem? hline)

theorem lineIndex_le (location : Location) (lines : List (List Char)) :
    lineIndex location lines ≤ lines.length := by
  unfold lineIndex
  omega

theorem rangeOf_isOn_of_extent (hshort : units text.toList < limit32)
    (hindex : lineIndex location (splitLines text.toList) = n)
    (hs : (splitLines text.toList).getD n [] = s)
    (hextent : extent location s = (offset s i, offset s j)) :
    (rangeOf location text).IsOn n (units (s.take i)) (units (s.take (max i j))) := by
  have hunits : units s < limit32 :=
    Nat.lt_of_le_of_lt (hs ▸ units_getD_le text.toList n) hshort
  have hlines : n < limit32 := calc
    n ≤ (splitLines text.toList).length := hindex ▸ lineIndex_le location _
    _ ≤ text.toList.length := length_splitLines_le _
    _ ≤ units text.toList := length_le_units _
    _ < limit32 := hshort
  have hrange : rangeOf location text =
      ⟨⟨.ofNat n, offset s i⟩, ⟨.ofNat n, max (offset s j) (offset s i)⟩⟩ := by
    unfold rangeOf
    dsimp only
    rw [hindex, hs, hextent]
  rw [hrange]
  have hnumber : (UInt32.ofNat n).toNat = n := UInt32.toNat_ofNat_of_lt' hlines
  exact ⟨hnumber, toNat_offset hunits i, hnumber, toNat_max_offset hunits i j⟩

theorem rangeOf_isOn (hshort : units text.toList < limit32)
    (hs : (splitLines text.toList)[n - 1]? = some s) (hline : location.line = n)
    (hcolumn : location.column = some (i + 1)) (hend : location.endColumn = some (j + 2))
    (hij : i ≤ j + 1) :
    (rangeOf location text).IsOn (n - 1) (units (s.take i)) (units (s.take (j + 1))) := by
  obtain ⟨hlt, hget⟩ := List.getElem?_eq_some_iff.mp hs
  have hindex : lineIndex location (splitLines text.toList) = n - 1 := by
    unfold lineIndex
    rw [hline]
    omega
  have hgetD : (splitLines text.toList).getD (n - 1) [] = s := by
    rw [List.getD_eq_getElem?_getD, hs, Option.getD_some]
  have hextent : extent location s = (offset s i, offset s (j + 1)) := by
    unfold extent
    rw [hcolumn, hend]
    rfl
  have hrange := rangeOf_isOn_of_extent hshort hindex hgetD hextent
  rwa [Nat.max_eq_right hij] at hrange

variable {listing : String} {header marks : List Char}
  {above below : List (List Char)} {h : Header}

/-- A header names a line of a text, and the line and markers under some of its characters
come next in the listing. Then the diagnostic of the header has the columns of these characters,
and its mark in the text covers just them. -/
theorem mark_of_carets (relabel : Option Path) (hshort : units text.toList < limit32)
    (hpos : 1 ≤ n) (hs : (splitLines text.toList)[n - 1]? = some s)
    (hplain : ∀ other : Header, ¬ other.Reads s) (hcaret : ¬ IsCaretLine s)
    (hlisting : splitLines listing.toList = above ++ header :: s :: marks :: below)
    (hheader : h.IsLongest header) (hn : Denotes h.digits n) (hpoints : PointsAt s marks i j) :
    ∃ front d back, List.Forall₂ (Found relabel) above front ∧
      List.Forall₂ (Found relabel) below back ∧
      diagnostics listing relabel = front.reduceOption ++ d :: back.reduceOption ∧
      h.Gives n relabel d ∧ d.location.column = some (i + 1) ∧
      d.location.endColumn = some (j + 2) ∧
      (Mark.of d text).range.IsOn (n - 1) (units (s.take i)) (units (s.take (j + 1))) := by
  have hspan : span? (s :: marks :: below) = some (i + 1, j + 2) := hpoints.span?_eq hplain hcaret
  obtain ⟨front, hfront, hbefore⟩ :=
    found_diagnosticsOfLines relabel above (header :: s :: marks :: below)
  obtain ⟨back, hback, hafter⟩ := found_diagnosticsOfLines relabel below []
  rw [List.append_nil] at hafter
  have hsource : diagnostic? relabel s (marks :: below) = none :=
    diagnostic?_eq_none fun other _ hother => absurd hother.1 (hplain other)
  have hmarks : diagnostic? relabel marks below = none :=
    diagnostic?_eq_none fun other _ hother => absurd hother.1 (hpoints.not_reads other)
  let d := h.diagnostic n relabel (s :: marks :: below)
  have hgives : h.Gives n relabel d := h.gives_diagnostic n relabel (s :: marks :: below)
  have hlocation : d.location.column = some (i + 1) ∧ d.location.endColumn = some (j + 2) := by
    simp only [d, Header.diagnostic, hspan, Location.withSpan, and_self]
  refine ⟨front, d, back, hfront, hback, ?_, hgives, hlocation.1, hlocation.2, ?_⟩
  · unfold diagnostics
    rw [hlisting, hbefore, diagnosticsOfLines, diagnosticsOfLines, diagnosticsOfLines,
      diagnostic?_eq_some hheader hn, hsource, hmarks, hafter, diagnosticsOfLines, List.append_nil]
    rfl
  · have hline : d.location.line = n := hgives.line.trans (Nat.max_eq_right hpos)
    exact rangeOf_isOn hshort hs hline hlocation.1 hlocation.2
      (Nat.le_succ_of_le hpoints.ordered)

theorem mark_of_carets_wide : ∃ d,
    diagnostics "a.fish (line 2): Unexpected end\n日本𝄞x\u0301(\n     ^~" none = [d] ∧
      d.location.column = some 4 ∧ d.location.endColumn = some 7 ∧
      (Mark.of d "if\n日本𝄞x\u0301(\n").range.IsOn 1 4 7 := by
  have hshort : units "if\n日本𝄞x\u0301(\n".toList < limit32 := by decide +kernel
  have hs : (splitLines "if\n日本𝄞x\u0301(\n".toList)[2 - 1]? = some "日本𝄞x\u0301(".toList := by
    decide +kernel
  have hplain : ∀ other : Header, ¬ other.Reads "日本𝄞x\u0301(".toList :=
    fun other hr => absurd (isHeader_iff.mpr ⟨other, hr⟩) (by decide +kernel)
  have hlisting : splitLines "a.fish (line 2): Unexpected end\n日本𝄞x\u0301(\n     ^~".toList =
      [] ++ "a.fish (line 2): Unexpected end".toList :: "日本𝄞x\u0301(".toList ::
        "     ^~".toList :: [] := by decide +kernel
  have hheader : Header.IsLongest ⟨"a.fish".toList, ['2'], "Unexpected end".toList⟩
      "a.fish (line 2): Unexpected end".toList := header?_eq_some_iff.mp (by decide +kernel)
  have hn : Denotes ['2'] 2 := (asciiNumber?_eq_some_iff (by decide)).mp (by decide)
  have hmarkers : ∀ c ∈ ['^', '~'], isMarker c := by simp [isMarker]
  have hpoints : PointsAt "日本𝄞x\u0301(".toList "     ^~".toList 3 5 :=
    ⟨by decide, by decide, by decide +kernel, by decide +kernel,
      ['^', '~'], by decide +kernel, by decide +kernel, hmarkers, by decide +kernel⟩
  obtain ⟨front, d, back, hfront, hback, hdiagnostics, -, hcolumn, hend, hrange⟩ :=
    mark_of_carets none hshort (by decide) hs hplain (by decide +kernel) hlisting hheader hn hpoints
  cases hfront
  cases hback
  exact ⟨d, hdiagnostics, hcolumn, hend, hrange⟩

end ScriptCheck.Editor
