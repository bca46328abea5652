import Mathlib.Data.List.DropRight
import ScriptCheck.Text.Blank

/-! Trimming at the end: a text is cut behind its last character that is no blank, whatever comes
before it. -/

namespace ScriptCheck.Text

variable {c : Char} {s t : List Char}

theorem exists_trimEnd_append (s : List Char) :
    ∃ blanks, s = trimEnd s ++ blanks ∧ ∀ c ∈ blanks, isBlank c := by
  refine ⟨(s.reverse.takeWhile isBlank).reverse, ?_, ?_⟩
  · unfold trimEnd
    rw [← List.reverse_append, List.takeWhile_append_dropWhile, List.reverse_reverse]
  · intro c hc
    exact List.all_eq_true.mp List.all_takeWhile c (List.mem_reverse.mp hc)

theorem not_isBlank_of_getLast? (hc : c ∈ (trimEnd s).getLast?) : ¬ isBlank c := by
  obtain ⟨hne, rfl⟩ := List.mem_getLast?_eq_getLast hc
  exact List.rdropWhile_last_not isBlank s hne

theorem trimEnd_cons (c : Char) (s : List Char) :
    trimEnd (c :: s) = if trimEnd s = [] ∧ isBlank c then [] else c :: trimEnd s := by
  unfold trimEnd
  rw [List.reverse_cons, List.dropWhile_append]
  by_cases hblank : isBlank c
  · by_cases hnil : s.reverse.dropWhile isBlank = []
    · simp [hnil, hblank]
    · simp [hnil]
  · by_cases hnil : s.reverse.dropWhile isBlank = []
    · simp [hnil, hblank]
    · simp [hnil]

theorem trimEnd_append_of_ne_nil (s : List Char) (ht : trimEnd t ≠ []) :
    trimEnd (s ++ t) = s ++ trimEnd t := by
  induction s with
  | nil => rfl
  | cons c s ih =>
    have hne : trimEnd (s ++ t) ≠ [] := ih ▸ List.append_ne_nil_of_right_ne_nil s ht
    rw [List.cons_append, trimEnd_cons, if_neg fun h => hne h.1, ih, List.cons_append]

theorem trimEnd_append_cons (s : List Char) (hc : ¬ isBlank c) (t : List Char) :
    trimEnd (s ++ c :: t) = s ++ c :: trimEnd t := by
  have hcons : trimEnd (c :: t) = c :: trimEnd t := by
    rw [trimEnd_cons, if_neg fun h => hc h.2]
  rw [trimEnd_append_of_ne_nil s (hcons ▸ List.cons_ne_nil c _), hcons]

theorem trimEnd_concat_blank (s : List Char) (hc : isBlank c) : trimEnd (s ++ [c]) = trimEnd s :=
  List.rdropWhile_concat_pos isBlank s c hc

end ScriptCheck.Text
