import Mathlib.Data.List.DropRight
import ScriptCheck.Proofs.Listing.Span

/-! How far an error looks below its header. Two lines count, and none from the next header on,
so that errors listed one after another do not meet; of the lines that count the first one of
nothing but markers gives the span. -/

namespace ScriptCheck.Listing

open Text

variable {relabel : Option Path} {line marks header : List Char}
  {below before after rest : List (List Char)} {first last : Nat} {h : Header} {n : Nat}

def HeaderShaped (line : List Char) : Prop := ∃ h : Header, h.Reads line

instance (line : List Char) : Decidable (HeaderShaped line) := decidable_of_iff _ isHeader_iff

def reach (below : List (List Char)) : List (List Char) :=
  (below.take 2).takeWhile fun line => ¬ HeaderShaped line

theorem takeWhile_isHeader (below : List (List Char)) :
    ((below.take 2).takeWhile fun line => !isHeader line) = reach below := by
  have hshape (line : List Char) : (!isHeader line) = decide (¬ HeaderShaped line) := by
    rw [← Bool.decide_coe (isHeader line), decide_not]
    exact congrArg (! ·) (decide_eq_decide.mpr isHeader_iff)
  simp only [hshape]
  rfl

theorem length_reach_le (below : List (List Char)) : (reach below).length ≤ 2 := by
  have hprefix := (List.takeWhile_prefix (fun line => decide (¬ HeaderShaped line))
    (l := below.take 2)).length_le
  have htake := List.length_take_le 2 below
  exact Nat.le_trans hprefix htake

theorem reach_append (hheader : HeaderShaped header) (below rest : List (List Char)) :
    reach (below ++ header :: rest) = reach below := by
  unfold reach
  cases below with
  | nil => simp [hheader]
  | cons a below =>
    cases below with
    | nil => simp [List.takeWhile_cons, hheader]
    | cons b below => simp

/-- The first and the last marker of a line that has only blanks around them. -/
structure Marks (s : List Char) (first last : Nat) : Prop where
  ordered : first ≤ last
  firstMarker : ∃ c, s[first]? = some c ∧ isMarker c
  lastMarker : ∃ c, s[last]? = some c ∧ isMarker c
  around : ∀ i c, s[i]? = some c → i < first ∨ last < i → isBlank c

theorem exists_getElem?_takeWhile {s : List Char} {c : Char} (hc : c ∈ s) (hblank : ¬ isBlank c) :
    ∃ d, s[(s.takeWhile isBlank).length]? = some d ∧ ¬ isBlank d := by
  induction s with
  | nil => cases hc
  | cons a s ih =>
    by_cases ha : isBlank a
    · have hrest : c ∈ s := by
        rcases List.mem_cons.mp hc with rfl | hc
        · exact absurd ha hblank
        · exact hc
      rw [List.takeWhile_cons_of_pos ha]
      exact ih hrest
    · rw [List.takeWhile_cons_of_neg ha]
      exact ⟨a, rfl, ha⟩

theorem exists_getElem?_trimEnd {s : List Char} (hne : trimEnd s ≠ []) :
    ∃ c, (trimEnd s)[(trimEnd s).length - 1]? = some c ∧ ¬ isBlank c := by
  refine ⟨(trimEnd s).getLast hne, ?_, List.rdropWhile_last_not isBlank s hne⟩
  rw [← List.getLast?_eq_getElem?, List.getLast?_eq_some_getLast hne]

theorem exists_markedCells? {s : List Char} (hs : IsCaretLine s) :
    ∃ first last, Marks s first last ∧ markedCells? s = some (first, last) := by
  obtain ⟨blanks, hsplit, hblanks⟩ := exists_trimEnd_append s
  have hcaret : '^' ∈ trimEnd s := by
    have hmem := hs.1
    rw [hsplit] at hmem
    refine (List.mem_append.mp hmem).resolve_right fun hback => ?_
    exact absurd (hblanks _ hback) (by decide)
  have hmarker (i : Nat) (c : Char) (hi : (trimEnd s)[i]? = some c) (hc : ¬ isBlank c) :
      ∃ c, s[i]? = some c ∧ isMarker c := by
    have hlt := (List.getElem?_eq_some_iff.mp hi).1
    have hget : s[i]? = some c := by
      rw [hsplit, List.getElem?_append_left hlt, hi]
    exact ⟨c, hget, (hs.2 c (List.mem_of_getElem? hget)).resolve_left hc⟩
  obtain ⟨c, hfirst, hc⟩ := exists_getElem?_takeWhile hcaret (by decide)
  obtain ⟨d, hlast, hd⟩ := exists_getElem?_trimEnd (List.ne_nil_of_mem hcaret)
  have hlength := (List.getElem?_eq_some_iff.mp hfirst).1
  refine ⟨_, _, ⟨Nat.le_sub_one_of_lt hlength, hmarker _ c hfirst hc, hmarker _ d hlast hd, ?_⟩,
    ?_⟩
  · rintro i b hi (hbefore | hbehind)
    · obtain ⟨more, hmore⟩ := List.takeWhile_prefix isBlank (l := trimEnd s)
      rw [hsplit, ← hmore, List.append_assoc, List.getElem?_append_left hbefore] at hi
      exact List.all_eq_true.mp List.all_takeWhile b (List.mem_of_getElem? hi)
    · have hback : blanks[i - (trimEnd s).length]? = some b := by
        rw [hsplit, List.getElem?_append_right (by omega)] at hi
        exact hi
      exact hblanks b (List.mem_of_getElem? hback)
  · unfold markedCells?
    dsimp only
    rw [if_pos]
    rw [Bool.and_eq_true]
    refine ⟨List.contains_iff_mem.mpr hcaret, List.all_eq_true.mpr fun c hc => ?_⟩
    have hmem : c ∈ s := by
      rw [hsplit]
      exact List.mem_append_left _ hc
    exact Bool.or_eq_true_iff.mpr (hs.2 c hmem)

theorem span?_eq_some (hreach : reach below = before ++ marks :: after) (hmarks : IsCaretLine marks)
    (hbefore : ∀ line ∈ before, ¬ IsCaretLine line) : ∃ first last, Marks marks first last ∧
      span? below = some (columns (before.getLastD []) (first, last)) := by
  obtain ⟨first, last, hfirst, hcells⟩ := exists_markedCells? hmarks
  refine ⟨first, last, hfirst, ?_⟩
  have htwo := length_reach_le below
  unfold span?
  rw [takeWhile_isHeader, hreach]
  rw [hreach, List.length_append, List.length_cons] at htwo
  match before with
  | [] => cases after <;> simp [hcells]
  | [s] =>
    have hs := markedCells?_eq_none (hbefore s List.mem_cons_self)
    simp [hs, hcells]
  | _ :: _ :: _ => simp at htwo; omega

theorem span?_eq_none (hnone : ∀ line ∈ reach below, ¬ IsCaretLine line) :
    span? below = none := by
  unfold span?
  rw [takeWhile_isHeader]
  cases hreach : reach below with
  | nil => rfl
  | cons s rest =>
    have hs := markedCells?_eq_none (hnone s (by simp [hreach]))
    cases rest with
    | nil => simp [hs]
    | cons t rest =>
      have ht := markedCells?_eq_none (hnone t (by simp [hreach]))
      simp [hs, ht]

theorem span?_append (hheader : HeaderShaped header) (below rest : List (List Char)) :
    span? (below ++ header :: rest) = span? below := by
  unfold span?
  rw [takeWhile_isHeader, takeWhile_isHeader, reach_append hheader]

theorem columns_ordered (source : List Char) (hordered : first ≤ last) :
    1 ≤ (columns source (first, last)).1 ∧
      (columns source (first, last)).1 < (columns source (first, last)).2 := by
  have hmono := charAtCell_mono source hordered
  unfold columns
  dsimp only
  omega

structure Spanned (below : List (List Char)) (location : Location) : Prop where
  both : location.column.isSome ↔ location.endColumn.isSome
  caret : location.column.isSome ↔ ∃ line ∈ reach below, IsCaretLine line
  decided : ∀ before marks after, reach below = before ++ marks :: after → IsCaretLine marks →
    (∀ line ∈ before, ¬ IsCaretLine line) → ∃ first last, Marks marks first last ∧
      location.column = some (charAtCell (before.getLastD []) first + 1) ∧
      location.endColumn = some (charAtCell (before.getLastD []) last + 2)
  ordered : ∀ column endColumn, location.column = some column →
    location.endColumn = some endColumn → 1 ≤ column ∧ column < endColumn

theorem location_of_span (h : Header) (n : Nat) (relabel : Option Path) {span : Nat × Nat}
    (hspan : span? below = some span) :
    (h.diagnostic n relabel below).location.column = some span.1 ∧
      (h.diagnostic n relabel below).location.endColumn = some span.2 := by
  simp [Header.diagnostic, hspan, Location.withSpan]

theorem location_of_no_span (h : Header) (n : Nat) (relabel : Option Path)
    (hspan : span? below = none) :
    (h.diagnostic n relabel below).location.column = none ∧
      (h.diagnostic n relabel below).location.endColumn = none := by
  simp [Header.diagnostic, hspan]

theorem exists_first_caret (hcaret : ∃ line ∈ rest, IsCaretLine line) :
    ∃ before marks after, rest = before ++ marks :: after ∧ IsCaretLine marks ∧
      ∀ line ∈ before, ¬ IsCaretLine line := by
  obtain ⟨line, hline, hcaret⟩ := hcaret
  have hsome : (rest.find? fun line => IsCaretLine line).isSome :=
    List.find?_isSome.mpr ⟨line, hline, decide_eq_true hcaret⟩
  obtain ⟨marks, hfind⟩ := Option.isSome_iff_exists.mp hsome
  obtain ⟨hfirst, before, after, hrest, hbefore⟩ := List.find?_eq_some_iff_append.mp hfind
  refine ⟨before, marks, after, hrest, of_decide_eq_true hfirst, fun line hline => ?_⟩
  simpa using hbefore line hline

theorem spanned_diagnostic (h : Header) (n : Nat) (relabel : Option Path)
    (below : List (List Char)) : Spanned below (h.diagnostic n relabel below).location := by
  have hdecided : ∀ before marks after, reach below = before ++ marks :: after →
      IsCaretLine marks → (∀ line ∈ before, ¬ IsCaretLine line) →
      ∃ first last, Marks marks first last ∧
        (h.diagnostic n relabel below).location.column =
          some (charAtCell (before.getLastD []) first + 1) ∧
        (h.diagnostic n relabel below).location.endColumn =
          some (charAtCell (before.getLastD []) last + 2) := by
    intro before marks after hreach hmarks hbefore
    obtain ⟨first, last, hcells, hspan⟩ := span?_eq_some hreach hmarks hbefore
    exact ⟨first, last, hcells, location_of_span h n relabel hspan⟩
  by_cases hcaret : ∃ line ∈ reach below, IsCaretLine line
  · obtain ⟨before, marks, after, hreach, hmarks, hbefore⟩ := exists_first_caret hcaret
    obtain ⟨first, last, hcells, hspan⟩ := span?_eq_some hreach hmarks hbefore
    obtain ⟨hcolumn, hend⟩ := location_of_span h n relabel hspan
    refine ⟨by simp [hcolumn, hend], by simp [hcolumn, hcaret], hdecided, ?_⟩
    intro column endColumn hc he
    rw [hcolumn, Option.some.injEq] at hc
    rw [hend, Option.some.injEq] at he
    rw [← hc, ← he]
    exact columns_ordered _ hcells.ordered
  · have hnone : ∀ line ∈ reach below, ¬ IsCaretLine line :=
      fun line hline hmarks => hcaret ⟨line, hline, hmarks⟩
    obtain ⟨hcolumn, hend⟩ := location_of_no_span h n relabel (span?_eq_none hnone)
    refine ⟨by simp [hcolumn, hend], by simp [hcolumn, hcaret], hdecided, ?_⟩
    intro column endColumn hc
    rw [hcolumn] at hc
    cases hc

/-- The diagnostics of the lines of a listing: one for each header with a number, in order and
with its span, and none for any other line. -/
inductive Listed (relabel : Option Path) : List (List Char) → List Diagnostic → Prop
  | nil : Listed relabel [] []
  | error {line : List Char} {below : List (List Char)} {h : Header} {n : Nat} {d : Diagnostic}
    {more : List Diagnostic} (longest : h.IsLongest line) (number : Denotes h.digits n)
    (gives : h.Gives n relabel d) (spanned : Spanned below d.location)
    (listed : Listed relabel below more) : Listed relabel (line :: below) (d :: more)
  | nothing {line : List Char} {below : List (List Char)} {more : List Diagnostic}
    (hnone : ∀ (h : Header) (n : Nat), h.IsLongest line → ¬ Denotes h.digits n)
    (listed : Listed relabel below more) : Listed relabel (line :: below) more

theorem listed_diagnosticsOfLines (relabel : Option Path) (lines : List (List Char)) :
    Listed relabel lines (diagnosticsOfLines relabel lines) := by
  induction lines with
  | nil => exact .nil
  | cons line below ih =>
    unfold diagnosticsOfLines
    by_cases hnumbered : ∃ (h : Header) (n : Nat), h.IsLongest line ∧ Denotes h.digits n
    · obtain ⟨h, n, hlongest, hn⟩ := hnumbered
      rw [diagnostic?_eq_some hlongest hn]
      exact .error hlongest hn (h.gives_diagnostic n relabel below)
        (spanned_diagnostic h n relabel below) ih
    · have hnone : ∀ (h : Header) (n : Nat), h.IsLongest line → ¬ Denotes h.digits n :=
        fun h n hlongest hn => hnumbered ⟨h, n, hlongest, hn⟩
      rw [diagnostic?_eq_none hnone]
      exact .nothing hnone ih

theorem diagnosticsOfLines_append (hheader : HeaderShaped header)
    (lines rest : List (List Char)) :
    diagnosticsOfLines relabel (lines ++ header :: rest) =
      diagnosticsOfLines relabel lines ++ diagnosticsOfLines relabel (header :: rest) := by
  induction lines with
  | nil => rfl
  | cons line below ih =>
    have hline : diagnostic? relabel line (below ++ header :: rest) =
        diagnostic? relabel line below := by
      unfold diagnostic?
      rw [span?_append hheader]
    rw [List.cons_append, diagnosticsOfLines, diagnosticsOfLines, hline, ih, List.append_assoc]

/-- A listing that begins with a header and follows whole lines adds its own diagnostics to
theirs, and in any listing each diagnostic has the span that the lines below its header give. -/
theorem diagnostics_append_listed :
    (∀ (a b : String) (relabel : Option Path), a = "" ∨ a.toList.getLast? = some '\n' →
      (∃ line rest, splitLines b.toList = line :: rest ∧ HeaderShaped line) →
        diagnostics (a ++ b) relabel = diagnostics a relabel ++ diagnostics b relabel) ∧
    ∀ (text : String) (relabel : Option Path),
      Listed relabel (splitLines text.toList) (diagnostics text relabel) := by
  constructor
  · intro a b relabel ha hb
    obtain ⟨header, rest, hlines, hheader⟩ := hb
    have hwhole : a.toList = [] ∨ a.toList.getLast? = some '\n' := by
      rcases ha with rfl | ha
      · exact .inl rfl
      · exact .inr ha
    unfold diagnostics
    rw [String.toList_append, splitLines_append hwhole, hlines]
    exact diagnosticsOfLines_append hheader _ rest
  · intro text relabel
    exact listed_diagnosticsOfLines relabel (splitLines text.toList)

theorem diagnostics_append_listed_overflow :
    let a := "a.fish (line 2): Unexpected end\n"
    let b := "b.fish (line 18446744073709551616): No\n ^~\nc.fish (line 1): Bad\nx日y\n   ^"
    a.toList.getLast? = some '\n' ∧
      (∃ line rest, splitLines b.toList = line :: rest ∧ HeaderShaped line) ∧
      diagnostics (a ++ b) none =
        [{ tool := "fish", rule := "syntax-error", message := "Unexpected end", severity := .error
           location := { file := ⟨"a.fish"⟩, line := 2 } },
         { tool := "fish", rule := "syntax-error", message := "Bad", severity := .error
           location := ⟨⟨"c.fish"⟩, 1, some 3, some 4⟩ }] := by
  intro a b
  have ha : a.toList.getLast? = some '\n' := by decide +kernel
  have hlines : splitLines b.toList = "b.fish (line 18446744073709551616): No".toList ::
      (splitLines b.toList).tail := by decide +kernel
  have hheader : HeaderShaped "b.fish (line 18446744073709551616): No".toList :=
    isHeader_iff.mp (by decide +kernel)
  have hb : ∃ line rest, splitLines b.toList = line :: rest ∧ HeaderShaped line :=
    ⟨_, _, hlines, hheader⟩
  refine ⟨ha, hb, ?_⟩
  rw [diagnostics_append_listed.1 a b none (.inr ha) hb]
  decide +kernel

end ScriptCheck.Listing
