import ScriptCheck.Text.Lines
import ScriptCheck.Text.Split
import ScriptCheck.Text.Units

/-! The lines of a text are no more and no wider than the text, and those of two texts follow
each other when the first one ends with a newline. They are as many as the pieces between the
newlines, but for an empty last one. -/

namespace ScriptCheck.Text

variable {c : Char} {s line : List Char} {rest : Bool × List (List Char)} {k : Nat}

theorem foldr_pushChar_of_single (hne : s ≠ []) (hs : '\n' ∉ s) :
    s.foldr pushChar (false, []) = (false, [s]) := by
  induction s with
  | nil => exact absurd rfl hne
  | cons c s ih =>
    rw [List.mem_cons, not_or] at hs
    obtain ⟨hc, hs⟩ := hs
    rw [List.foldr_cons]
    cases s with
    | nil => exact (if_neg (Ne.symm hc)).trans (if_neg fun h => by cases h.2)
    | cons d s =>
      rw [ih (List.cons_ne_nil _ _) hs]
      exact (if_neg (Ne.symm hc)).trans (if_neg fun h => by cases h.2)

theorem splitLines_of_single (hne : s ≠ []) (hs : '\n' ∉ s) : splitLines s = [s] := by
  unfold splitLines
  rw [foldr_pushChar_of_single hne hs]

theorem pushChar_append (c : Char) (hne : rest.2 ≠ []) (more : List (List Char)) :
    pushChar c (rest.1, rest.2 ++ more) = ((pushChar c rest).1, (pushChar c rest).2 ++ more) ∧
      (pushChar c rest).2 ≠ [] := by
  obtain ⟨flag, lines⟩ := rest
  obtain ⟨line, lines, rfl⟩ := List.exists_cons_of_ne_nil hne
  unfold pushChar
  by_cases hc : c = '\n'
  · simp [hc]
  · by_cases hreturn : c = '\r' ∧ flag = true
    · simp [hreturn]
    · simp [hc, hreturn]

theorem foldr_pushChar_append (hne : rest.2 ≠ []) (s : List Char) (more : List (List Char)) :
    s.foldr pushChar (rest.1, rest.2 ++ more) =
        ((s.foldr pushChar rest).1, (s.foldr pushChar rest).2 ++ more) ∧
      (s.foldr pushChar rest).2 ≠ [] := by
  induction s with
  | nil => exact ⟨rfl, hne⟩
  | cons c s ih =>
    rw [List.foldr_cons, List.foldr_cons, ih.1]
    exact pushChar_append c ih.2 more

theorem splitLines_append_newline (s t : List Char) :
    splitLines (s ++ '\n' :: t) = splitLines (s ++ ['\n']) ++ splitLines t := by
  have hne : ((true, [[]]) : Bool × List (List Char)).2 ≠ [] := List.cons_ne_nil _ _
  have hfold := (foldr_pushChar_append hne s (splitLines t)).1
  unfold splitLines at hfold ⊢
  rw [List.foldr_append, List.foldr_append]
  exact congrArg Prod.snd hfold

theorem splitLines_append {s : List Char} (hs : s = [] ∨ s.getLast? = some '\n') (t : List Char) :
    splitLines (s ++ t) = splitLines s ++ splitLines t := by
  rcases hs with rfl | hs
  · rfl
  · obtain ⟨front, rfl⟩ := List.getLast?_eq_some_iff.mp hs
    rw [List.append_assoc, List.singleton_append, splitLines_append_newline]

def unlessEmpty : List Char → List (List Char)
  | [] => []
  | last => [last]

theorem foldr_pushChar_eq (s : List Char) : ∃ flag front before last,
    s.foldr pushChar (false, []) = (flag, front ++ unlessEmpty last) ∧
      pieces '\n' s = before ++ [last] ∧ front.length = before.length ∧
        (flag = true → before ≠ []) := by
  induction s with
  | nil => exact ⟨false, [], [], [], rfl, rfl, rfl, nofun⟩
  | cons c s ih =>
    obtain ⟨flag, front, before, last, hfold, hpieces, hlength, hflag⟩ := ih
    have hpushed : pieces '\n' (c :: s) = pushPiece '\n' c (before ++ [last]) := by
      rw [← hpieces]
      rfl
    rw [List.foldr_cons, hfold]
    by_cases hc : c = '\n'
    · exact ⟨true, [] :: front, [] :: before, last, if_pos hc, hpushed.trans (if_pos hc),
        congrArg (· + 1) hlength, fun _ => List.cons_ne_nil _ _⟩
    · by_cases hreturn : c = '\r' ∧ flag = true
      · obtain ⟨piece, before, rfl⟩ := List.exists_cons_of_ne_nil (hflag hreturn.2)
        exact ⟨false, front, (c :: piece) :: before, last, (if_neg hc).trans (if_pos hreturn),
          hpushed.trans (if_neg hc), hlength, nofun⟩
      · cases front with
        | nil =>
          obtain rfl : before = [] := List.eq_nil_of_length_eq_zero hlength.symm
          refine ⟨false, [], [], c :: last, ?_, hpushed.trans (if_neg hc), rfl, nofun⟩
          cases last <;> exact (if_neg hc).trans (if_neg hreturn)
        | cons line front =>
          obtain ⟨piece, before, rfl⟩ := List.exists_cons_of_length_eq_add_one hlength.symm
          exact ⟨false, (c :: line) :: front, (c :: piece) :: before, last,
            (if_neg hc).trans (if_neg hreturn), hpushed.trans (if_neg hc), hlength, nofun⟩

theorem splitLines_eq (s : List Char) : ∃ front before last,
    splitLines s = front ++ unlessEmpty last ∧ pieces '\n' s = before ++ [last] ∧
      front.length = before.length := by
  obtain ⟨flag, front, before, last, hfold, hpieces, hlength, -⟩ := foldr_pushChar_eq s
  exact ⟨front, before, last, congrArg Prod.snd hfold, hpieces, hlength⟩

theorem length_pushChar_le (c : Char) (rest : Bool × List (List Char)) :
    (pushChar c rest).2.length ≤ rest.2.length + 1 := by
  unfold pushChar
  split
  · exact Nat.le_refl _
  · split
    · exact Nat.le_succ _
    · split
      · exact Nat.le_add_left _ _
      · rename_i hcons
        have hlength := congrArg List.length hcons
        exact Nat.le_trans (Nat.le_of_eq hlength.symm) (Nat.le_succ _)

theorem length_splitLines_le (s : List Char) : (splitLines s).length ≤ s.length := by
  induction s with
  | nil => exact Nat.le_refl _
  | cons c s ih => exact Nat.le_trans (length_pushChar_le c _) (Nat.succ_le_succ ih)

theorem units_pushChar_le (hrest : ∀ line ∈ rest.2, units line ≤ k)
    (hline : line ∈ (pushChar c rest).2) : units line ≤ unitWidth c + k := by
  unfold pushChar at hline
  split at hline
  · rcases List.mem_cons.mp hline with rfl | hline
    · exact Nat.zero_le _
    · exact Nat.le_add_left_of_le (hrest line hline)
  · split at hline
    · exact Nat.le_add_left_of_le (hrest line hline)
    · split at hline
      · rw [List.mem_singleton.mp hline]
        exact Nat.add_le_add_left (Nat.zero_le k) _
      · rename_i first lines hcons
        rcases List.mem_cons.mp hline with rfl | hline
        · exact Nat.add_le_add_left (hrest first (hcons ▸ List.mem_cons_self)) _
        · exact Nat.le_add_left_of_le (hrest line (hcons ▸ List.mem_cons_of_mem _ hline))

theorem units_le_of_mem_splitLines (hline : line ∈ splitLines s) : units line ≤ units s := by
  induction s generalizing line with
  | nil => cases hline
  | cons c s ih => exact units_pushChar_le (fun line => ih) hline

theorem length_le_units (s : List Char) : s.length ≤ units s := by
  induction s with
  | nil => exact Nat.le_refl _
  | cons c s ih =>
    have hwidth : 1 ≤ unitWidth c := by
      unfold unitWidth
      split <;> decide
    calc s.length + 1 ≤ units s + unitWidth c := Nat.add_le_add ih hwidth
      _ = unitWidth c + units s := Nat.add_comm _ _

theorem units_append (s t : List Char) : units (s ++ t) = units s + units t := by
  induction s with
  | nil => exact (Nat.zero_add _).symm
  | cons c s ih =>
    show unitWidth c + units (s ++ t) = unitWidth c + units s + units t
    rw [ih, Nat.add_assoc]

theorem unitsOfFirst_le (s : List Char) (n : Nat) : unitsOfFirst s n ≤ units s := by
  have hsplit := units_append (s.take n) (s.drop n)
  rw [List.take_append_drop] at hsplit
  unfold unitsOfFirst
  rw [hsplit]
  exact Nat.le_add_right _ _

end ScriptCheck.Text
