import ScriptCheck.Text.Split

/-! A text that is cut at a separator, and pieces with a separator between them. -/

namespace ScriptCheck.Text

variable {sep : Char} {s : List Char}

theorem pieces_of_notMem (hs : sep ∉ s) : pieces sep s = [s] := by
  induction s with
  | nil => rfl
  | cons c s ih =>
    have hc : c ≠ sep := fun heq => hs (heq ▸ List.mem_cons_self)
    show pushPiece sep c (pieces sep s) = _
    rw [ih fun hmem => hs (List.mem_cons_of_mem c hmem), pushPiece, if_neg hc]

theorem pieces_append_cons (hs : sep ∉ s) (rest : List Char) :
    pieces sep (s ++ sep :: rest) = s :: pieces sep rest := by
  induction s with
  | nil => exact if_pos rfl
  | cons c s ih =>
    have hc : c ≠ sep := fun heq => hs (heq ▸ List.mem_cons_self)
    show pushPiece sep c (pieces sep (s ++ sep :: rest)) = _
    rw [ih fun hmem => hs (List.mem_cons_of_mem c hmem), pushPiece, if_neg hc]

theorem notMem_of_mem_pieces {piece : List Char} (hpiece : piece ∈ pieces sep s) :
    sep ∉ piece := by
  induction s generalizing piece with
  | nil =>
    rw [List.mem_singleton.mp hpiece]
    exact List.not_mem_nil
  | cons c s ih =>
    have hpush : piece ∈ pushPiece sep c (pieces sep s) := hpiece
    unfold pushPiece at hpush
    by_cases hc : c = sep
    · rw [if_pos hc] at hpush
      rcases List.mem_cons.mp hpush with rfl | hrest
      · exact List.not_mem_nil
      · exact ih hrest
    · rw [if_neg hc] at hpush
      split at hpush
      · rw [List.mem_singleton.mp hpush, List.mem_singleton]
        exact Ne.symm hc
      next first rest hpieces =>
        rcases List.mem_cons.mp hpush with rfl | hrest
        · have hfirst := ih (hpieces ▸ List.mem_cons_self)
          exact fun hmem => (List.mem_cons.mp hmem).elim (Ne.symm hc) hfirst
        · exact ih (hpieces ▸ List.mem_cons_of_mem first hrest)

theorem pieces_intercalate {parts : List (List Char)} (hne : parts ≠ [])
    (hparts : ∀ part ∈ parts, sep ∉ part) : pieces sep ([sep].intercalate parts) = parts := by
  induction parts with
  | nil => exact absurd rfl hne
  | cons part parts ih =>
    have hpart := hparts part List.mem_cons_self
    cases parts with
    | nil =>
      rw [List.intercalate_singleton]
      exact pieces_of_notMem hpart
    | cons next parts =>
      rw [List.intercalate_cons_cons, List.append_assoc, List.singleton_append,
        pieces_append_cons hpart, ih (List.cons_ne_nil _ _) fun part hmem =>
          hparts part (List.mem_cons_of_mem _ hmem)]

theorem pieces_ne_nil (sep : Char) (s : List Char) : pieces sep s ≠ [] := by
  cases s with
  | nil => exact List.cons_ne_nil _ _
  | cons c s =>
    show pushPiece sep c (pieces sep s) ≠ []
    unfold pushPiece
    split
    · exact List.cons_ne_nil _ _
    · split <;> exact List.cons_ne_nil _ _

theorem flatten_pieces (sep : Char) (s : List Char) :
    (pieces sep s).flatten = s.filter (· ≠ sep) := by
  induction s with
  | nil => rfl
  | cons c s ih =>
    show (pushPiece sep c (pieces sep s)).flatten = _
    obtain ⟨first, rest, hpieces⟩ := List.exists_cons_of_ne_nil (pieces_ne_nil sep s)
    rw [hpieces] at ih ⊢
    by_cases hc : c = sep
    · rw [pushPiece, if_pos hc, List.filter_cons_of_neg (by simpa using hc), ← ih]
      rfl
    · rw [pushPiece, if_neg hc, List.filter_cons_of_pos (by simpa using hc), ← ih]
      rfl

theorem pieces_append_cons_of_notMem {t : List Char} (ht : sep ∉ t) (s : List Char) :
    pieces sep (s ++ sep :: t) = pieces sep s ++ [t] := by
  induction s with
  | nil =>
    rw [pieces_append_cons List.not_mem_nil, pieces_of_notMem ht]
    rfl
  | cons c s ih =>
    show pushPiece sep c (pieces sep (s ++ sep :: t)) = pushPiece sep c (pieces sep s) ++ [t]
    obtain ⟨first, rest, hpieces⟩ := List.exists_cons_of_ne_nil (pieces_ne_nil sep s)
    rw [ih, hpieces]
    unfold pushPiece
    split <;> rfl

theorem split_of_notMem {s : String} (hs : sep ∉ s.toList) : split sep s = [s] := by
  unfold split
  rw [pieces_of_notMem hs, List.map_singleton, String.ofList_toList]

theorem split_append_of_notMem {t : String} (ht : sep ∉ t.toList) (s : String) :
    split sep (s ++ .singleton sep ++ t) = split sep s ++ [t] := by
  unfold split
  simp only [String.toList_append, String.toList_singleton, List.append_assoc,
    List.singleton_append]
  rw [pieces_append_cons_of_notMem ht, List.map_append, List.map_singleton, String.ofList_toList]

theorem notMem_of_mem_split {s piece : String} (hpiece : piece ∈ split sep s) :
    sep ∉ piece.toList := by
  obtain ⟨chars, hchars, rfl⟩ := List.mem_map.mp hpiece
  rw [String.toList_ofList]
  exact notMem_of_mem_pieces hchars

end ScriptCheck.Text
