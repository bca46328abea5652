import ScriptCheck.Proofs.Text.Lines
import ScriptCheck.Text.Difference

/-! Where two texts begin to differ. The line that is given comes right after the longest front that
the lines of both texts share, so it does not depend on which text is given first, and texts that
spell the same lines with other line endings count as different from the start. -/

namespace ScriptCheck.Text

variable {s line : List Char} {left right shared : List (List Char)}

/-- A text has lines, each with either ending, the last one perhaps with none. A line before a bare
newline does not end with a carriage return, which would belong to the ending. -/
inductive Spells : List Char → List (List Char) → Prop
  | nil : Spells [] []
  | unended {line : List Char} (hne : line ≠ []) (hline : '\n' ∉ line) : Spells line [line]
  | newline {line s : List Char} {lines : List (List Char)} (hline : '\n' ∉ line)
      (hlast : line.getLast? ≠ some '\r') (hrest : Spells s lines) :
      Spells (line ++ '\n' :: s) (line :: lines)
  | returnNewline {line s : List Char} {lines : List (List Char)} (hline : '\n' ∉ line)
      (hrest : Spells s lines) : Spells (line ++ '\r' :: '\n' :: s) (line :: lines)

theorem foldr_pushChar_line {flag : Bool} (hne : line ≠ []) (hline : '\n' ∉ line)
    (hlast : flag = true → line.getLast? ≠ some '\r') (first : List Char)
    (rest : List (List Char)) :
    line.foldr pushChar (flag, first :: rest) = (false, (line ++ first) :: rest) := by
  induction line with
  | nil => exact absurd rfl hne
  | cons c line ih =>
    rw [List.mem_cons, not_or] at hline
    have hc : c ≠ '\n' := Ne.symm hline.1
    rw [List.foldr_cons]
    cases line with
    | nil =>
      have hkept : ¬ (c = '\r' ∧ flag = true) := fun hboth => hlast hboth.2 (by simp [hboth.1])
      exact (if_neg hc).trans (if_neg hkept)
    | cons d line =>
      rw [List.getLast?_cons_cons] at hlast
      rw [ih (List.cons_ne_nil _ _) hline.2 hlast]
      exact (if_neg hc).trans (if_neg fun hboth => by cases hboth.2)

theorem splitLines_newline (hline : '\n' ∉ line) (hlast : line.getLast? ≠ some '\r')
    (s : List Char) : splitLines (line ++ '\n' :: s) = line :: splitLines s := by
  unfold splitLines
  rw [List.foldr_append]
  show (line.foldr pushChar (true, [] :: (s.foldr pushChar (false, [])).2)).2 = _
  by_cases hne : line = []
  · rw [hne]
    rfl
  · rw [foldr_pushChar_line hne hline (fun _ => hlast), List.append_nil]

theorem splitLines_returnNewline (hline : '\n' ∉ line) (s : List Char) :
    splitLines (line ++ '\r' :: '\n' :: s) = line :: splitLines s := by
  unfold splitLines
  rw [List.foldr_append]
  show (line.foldr pushChar (false, [] :: (s.foldr pushChar (false, [])).2)).2 = _
  by_cases hne : line = []
  · rw [hne]
    rfl
  · rw [foldr_pushChar_line hne hline (absurd · Bool.false_ne_true), List.append_nil]

theorem splitLines_of_spells (hs : Spells s left) : splitLines s = left := by
  induction hs with
  | nil => rfl
  | unended hne hline => exact splitLines_of_single hne hline
  | newline hline hlast _ ih => rw [splitLines_newline hline hlast, ih]
  | returnNewline hline _ ih => rw [splitLines_returnNewline hline, ih]

theorem exists_spells (s : List Char) : ∃ lines, Spells s lines := by
  by_cases hs : '\n' ∈ s
  · obtain ⟨front, rest, rfl, hfront⟩ := List.eq_append_cons_of_mem hs
    obtain ⟨lines, hrest⟩ := exists_spells rest
    by_cases hlast : front.getLast? = some '\r'
    · obtain ⟨line, rfl⟩ := List.getLast?_eq_some_iff.mp hlast
      have hline : '\n' ∉ line := fun hmem => hfront (List.mem_append_left _ hmem)
      rw [List.append_assoc]
      exact ⟨line :: lines, .returnNewline hline hrest⟩
    · exact ⟨front :: lines, .newline hfront hlast hrest⟩
  · by_cases hne : s = []
    · exact ⟨[], hne ▸ .nil⟩
    · exact ⟨[s], .unended hne hs⟩
termination_by s.length
decreasing_by
  rename_i hsplit
  rw [hsplit]
  simp
  omega

theorem splitLines_eq_iff : splitLines s = left ↔ Spells s left := by
  constructor
  · rintro rfl
    obtain ⟨lines, hs⟩ := exists_spells s
    rwa [splitLines_of_spells hs]
  · exact splitLines_of_spells

/-- The longest list that both lists begin with. -/
structure IsSharedFront (left right shared : List (List Char)) : Prop where
  ofLeft : shared <+: left
  ofRight : shared <+: right
  longest : ∀ other, other <+: left → other <+: right → other <+: shared

theorem isSharedFront_nil (hdiffer : left.head? ≠ right.head?) :
    IsSharedFront left right [] := by
  refine ⟨List.nil_prefix, List.nil_prefix, fun other hleft hright => ?_⟩
  cases other with
  | nil => exact List.nil_prefix
  | cons x other =>
    obtain ⟨_, rfl⟩ := hleft
    obtain ⟨_, rfl⟩ := hright
    exact absurd rfl hdiffer

theorem IsSharedFront.cons (h : IsSharedFront left right shared) (x : List Char) :
    IsSharedFront (x :: left) (x :: right) (x :: shared) := by
  refine ⟨List.cons_prefix_cons.mpr ⟨rfl, h.ofLeft⟩, List.cons_prefix_cons.mpr ⟨rfl, h.ofRight⟩, ?_⟩
  intro other hleft hright
  cases other with
  | nil => exact List.nil_prefix
  | cons y other =>
    obtain ⟨rfl, hfront⟩ := List.cons_prefix_cons.mp hleft
    obtain ⟨-, hother⟩ := List.cons_prefix_cons.mp hright
    exact List.cons_prefix_cons.mpr ⟨rfl, h.longest other hfront hother⟩

theorem IsSharedFront.getElem?_ne (h : IsSharedFront left right shared) (hne : left ≠ right) :
    left[shared.length]? ≠ right[shared.length]? := by
  obtain ⟨more, hleft⟩ := h.ofLeft
  obtain ⟨others, hright⟩ := h.ofRight
  intro hsame
  rw [← hleft, ← hright, List.getElem?_append_right (Nat.le_refl _),
    List.getElem?_append_right (Nat.le_refl _), Nat.sub_self] at hsame
  cases more with
  | nil =>
    cases others with
    | nil => exact hne (hleft.symm.trans hright)
    | cons y others => cases hsame
  | cons x more =>
    cases others with
    | nil => cases hsame
    | cons y others =>
      obtain rfl : x = y := Option.some.inj hsame
      have hlonger := h.longest (shared ++ [x]) ⟨more, by simpa using hleft⟩
        ⟨others, by simpa using hright⟩
      have hlength := hlonger.length_le
      rw [List.length_append, List.length_singleton] at hlength
      exact Nat.not_succ_le_self _ hlength

theorem differenceFrom_self (n : Nat) (left : List (List Char)) :
    differenceFrom n left left = 1 := by
  induction left generalizing n with
  | nil => rfl
  | cons x left ih =>
    rw [differenceFrom, if_pos rfl]
    exact ih (n + 1)

theorem exists_differenceFrom_eq (n : Nat) (hne : left ≠ right) :
    ∃ shared, IsSharedFront left right shared ∧
      differenceFrom n left right = n + shared.length := by
  induction left generalizing right n with
  | nil =>
    obtain ⟨y, right, rfl⟩ := List.exists_cons_of_ne_nil hne.symm
    exact ⟨[], isSharedFront_nil nofun, rfl⟩
  | cons x left ih =>
    cases right with
    | nil => exact ⟨[], isSharedFront_nil nofun, rfl⟩
    | cons y right =>
      by_cases hxy : x = y
      · subst hxy
        obtain ⟨shared, hshared, hcount⟩ := ih (n + 1) fun heq => hne (congrArg (x :: ·) heq)
        refine ⟨x :: shared, hshared.cons x, ?_⟩
        rw [differenceFrom, if_pos rfl, hcount, List.length_cons]
        omega
      · refine ⟨[], isSharedFront_nil fun heq => hxy (Option.some.inj heq), ?_⟩
        rw [differenceFrom, if_neg hxy]
        rfl

/-- A line that is said to be the first one at which lists of lines differ. -/
structure PointsOut (left right : List (List Char)) (line : Nat) : Prop where
  alike : left = right → line = 1
  shared : left ≠ right → ∃ shared, IsSharedFront left right shared ∧ line = 1 + shared.length
  before : ∀ i, i + 1 < line → ∃ text, left[i]? = some text ∧ right[i]? = some text
  here : left ≠ right → left[line - 1]? ≠ right[line - 1]?
  bounds : 1 ≤ line ∧ line ≤ min left.length right.length + 1

theorem pointsOut_differenceFrom (left right : List (List Char)) :
    PointsOut left right (differenceFrom 1 left right) := by
  by_cases hne : left = right
  · subst hne
    rw [differenceFrom_self]
    exact ⟨fun _ => rfl, fun h => absurd rfl h, fun i hi => by omega, fun h => absurd rfl h,
      Nat.le_refl 1, Nat.le_add_left 1 _⟩
  · obtain ⟨shared, hshared, hcount⟩ := exists_differenceFrom_eq 1 hne
    rw [hcount]
    refine ⟨fun h => absurd h hne, fun _ => ⟨shared, hshared, rfl⟩, ?_, ?_, ?_⟩
    · intro i hi
      have hlength : i < shared.length := by omega
      exact ⟨shared[i], List.prefix_iff_getElem?.mp hshared.ofLeft i hlength,
        List.prefix_iff_getElem?.mp hshared.ofRight i hlength⟩
    · intro _
      rw [Nat.add_sub_cancel_left]
      exact hshared.getElem?_ne hne
    · have hleft := hshared.ofLeft.length_le
      have hright := hshared.ofRight.length_le
      omega

theorem differenceFrom_comm (n : Nat) (left right : List (List Char)) :
    differenceFrom n left right = differenceFrom n right left := by
  induction left generalizing right n with
  | nil => cases right <;> rfl
  | cons x left ih =>
    cases right with
    | nil => rfl
    | cons y right =>
      unfold differenceFrom
      by_cases hxy : x = y
      · rw [if_pos hxy, if_pos hxy.symm, ih]
      · rw [if_neg hxy, if_neg (Ne.symm hxy)]

/-- The first line at which two texts differ, for any texts, in either order, and for texts that
differ in line endings or in the end of the last line alone. -/
theorem pointsOut_firstDifferingLine :
    (∀ a b, PointsOut (splitLines a.toList) (splitLines b.toList) (firstDifferingLine a b)) ∧
    (∀ a b, firstDifferingLine a b = firstDifferingLine b a) ∧
    (∀ a b lines, Spells a.toList lines → Spells b.toList lines → firstDifferingLine a b = 1) ∧
    ∀ s lines, splitLines s = lines ↔ Spells s lines := by
  refine ⟨fun a b => pointsOut_differenceFrom _ _, fun a b => differenceFrom_comm 1 _ _, ?_,
    fun s lines => splitLines_eq_iff⟩
  intro a b lines ha hb
  unfold firstDifferingLine
  rw [splitLines_of_spells ha, splitLines_of_spells hb, differenceFrom_self]

theorem pointsOut_firstDifferingLine_endings :
    let a := "end\r\nif\r\n"
    let b := "end\nif"
    firstDifferingLine a b = 1 ∧
      PointsOut (splitLines a.toList) ["end".toList] (firstDifferingLine a "end\n") ∧
      firstDifferingLine a "end\n" = 2 := by
  intro a b
  obtain ⟨hpoints, -, hspelled, hlines⟩ := pointsOut_firstDifferingLine
  have ha : Spells a.toList ["end".toList, "if".toList] := (hlines _ _).mp (by decide)
  have hb : Spells b.toList ["end".toList, "if".toList] := (hlines _ _).mp (by decide)
  exact ⟨hspelled a b _ ha hb, hpoints a "end\n", by decide⟩

end ScriptCheck.Text
