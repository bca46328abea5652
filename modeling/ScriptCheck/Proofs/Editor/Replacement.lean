import ScriptCheck.Editor.Range
import ScriptCheck.Limits
import ScriptCheck.Proofs.Text.Lines

/-! What an editor makes of edits. To an editor a line ends with a newline, a carriage return or
both, and a character too far behind the line means its end. As long as every carriage return of
a document comes with a newline, the edit for the whole document reaches from its first place
to its last, and what it leaves is the new text alone. -/

namespace ScriptCheck.Editor

open Text

variable {text : List Char} {line : List Char} {edits : List Edit}

structure DocumentLine where
  chars : List Char
  ending : List Char
deriving DecidableEq, Repr

def DocumentLine.whole (line : DocumentLine) : List Char := line.chars ++ line.ending

def pushFront (c : Char) : List DocumentLine → List DocumentLine
  | [] => [⟨[c], []⟩]
  | line :: lines => { line with chars := c :: line.chars } :: lines

def documentLines : List Char → List DocumentLine
  | [] => [⟨[], []⟩]
  | '\r' :: '\n' :: rest => ⟨[], ['\r', '\n']⟩ :: documentLines rest
  | c :: rest =>
    if c = '\n' ∨ c = '\r' then ⟨[], [c]⟩ :: documentLines rest
    else pushFront c (documentLines rest)

def charsWithin : List Char → Nat → Nat
  | [], _ => 0
  | c :: rest, n => if unitWidth c ≤ n then charsWithin rest (n - unitWidth c) + 1 else 0

def index (text : List Char) (p : Position) : Nat :=
  let lines := documentLines text
  match lines[p.line.toNat]? with
  | some line => ((lines.take p.line.toNat).flatMap DocumentLine.whole).length +
      charsWithin line.chars p.character.toNat
  | none => text.length

def HasPlace (text : List Char) (p : Position) : Prop :=
  ∃ line, (documentLines text)[p.line.toNat]? = some line ∧
    ∃ n ≤ line.chars.length, units (line.chars.take n) = p.character.toNat

/-- What edits leave of a document from some character on. They stand in the order of their
places, all of which are those of the document before any edit. -/
def patched (text : List Char) : Nat → List Edit → List Char
  | done, [] => text.drop done
  | done, e :: edits =>
    (text.take (index text e.range.start)).drop done ++ e.newText.toList ++
      patched text (index text e.range.stop) edits

def applyEdits (text : String) (edits : List Edit) : String :=
  .ofList (patched text.toList 0 edits)

def ReturnsPaired : List Char → Prop
  | [] => True
  | c :: rest => (c = '\r' → rest.head? = some '\n') ∧ ReturnsPaired rest

instance decidableReturnsPaired : (text : List Char) → Decidable (ReturnsPaired text)
  | [] => isTrue trivial
  | _ :: rest => @instDecidableAnd _ _ _ (decidableReturnsPaired rest)

theorem flatMap_pushFront (c : Char) (lines : List DocumentLine) :
    (pushFront c lines).flatMap DocumentLine.whole = c :: lines.flatMap DocumentLine.whole := by
  cases lines <;> rfl

theorem flatMap_documentLines (text : List Char) :
    (documentLines text).flatMap DocumentLine.whole = text := by
  induction text using documentLines.induct with
  | case1 => rfl
  | case2 rest ih =>
    rw [documentLines, List.flatMap_cons, ih]
    rfl
  | case3 c rest hpair hc ih =>
    rw [documentLines.eq_3 c rest hpair, if_pos hc, List.flatMap_cons, ih]
    rfl
  | case4 c rest hpair hc ih =>
    rw [documentLines.eq_3 c rest hpair, if_neg hc, flatMap_pushFront, ih]

theorem unitWidth_pos (c : Char) : 0 < unitWidth c := by
  unfold unitWidth
  split <;> decide

theorem charsWithin_units_take {n : Nat} (hn : n ≤ line.length) :
    charsWithin line (units (line.take n)) = n := by
  induction line generalizing n with
  | nil => exact (Nat.le_zero.mp hn).symm
  | cons c line ih =>
    cases n with
    | zero => exact if_neg (Nat.not_le_of_lt (unitWidth_pos c))
    | succ n =>
      have hunits : units ((c :: line).take (n + 1)) = unitWidth c + units (line.take n) := rfl
      unfold charsWithin
      rw [hunits, if_pos (Nat.le_add_right _ _), Nat.add_sub_cancel_left,
        ih (Nat.le_of_succ_le_succ hn)]

theorem documentLines_eq (hpaired : ReturnsPaired text) : ∃ front before last,
    documentLines text = front ++ [⟨last, []⟩] ∧ pieces '\n' text = before ++ [last] ∧
      front.length = before.length := by
  induction text using documentLines.induct with
  | case1 => exact ⟨[], [], [], rfl, rfl, rfl⟩
  | case2 rest ih =>
    obtain ⟨front, before, last, hlines, hpieces, hlength⟩ := ih hpaired.2.2
    refine ⟨⟨[], ['\r', '\n']⟩ :: front, ['\r'] :: before, last, ?_, ?_, ?_⟩
    · rw [documentLines, hlines]
      rfl
    · show pushPiece '\n' '\r' (pushPiece '\n' '\n' (pieces '\n' rest)) = _
      rw [hpieces]
      rfl
    · exact congrArg (· + 1) hlength
  | case3 c rest hpair hc ih =>
    have hnewline : c = '\n' := by
      refine hc.resolve_right fun hreturn => ?_
      obtain ⟨more, hrest⟩ := List.head?_eq_some_iff.mp (hpaired.1 hreturn)
      exact hpair more hreturn hrest
    obtain ⟨front, before, last, hlines, hpieces, hlength⟩ := ih hpaired.2
    refine ⟨⟨[], [c]⟩ :: front, [] :: before, last, ?_, ?_, congrArg (· + 1) hlength⟩
    · rw [documentLines.eq_3 c rest hpair, if_pos hc, hlines]
      rfl
    · show pushPiece '\n' c (pieces '\n' rest) = _
      rw [hpieces]
      exact if_pos hnewline
  | case4 c rest hpair hc ih =>
    have hc' : c ≠ '\n' := fun hnewline => hc (.inl hnewline)
    obtain ⟨front, before, last, hlines, hpieces, hlength⟩ := ih hpaired.2
    have hdocument : documentLines (c :: rest) = pushFront c (front ++ [⟨last, []⟩]) := by
      rw [documentLines.eq_3 c rest hpair, if_neg hc, hlines]
    have hpushed : pieces '\n' (c :: rest) = pushPiece '\n' c (before ++ [last]) := by
      rw [← hpieces]
      rfl
    cases front with
    | nil =>
      obtain rfl : before = [] := List.eq_nil_of_length_eq_zero hlength.symm
      exact ⟨[], [], c :: last, hdocument, hpushed.trans (if_neg hc'), rfl⟩
    | cons first front =>
      obtain ⟨piece, before, rfl⟩ := List.exists_cons_of_length_eq_add_one hlength.symm
      exact ⟨{ first with chars := c :: first.chars } :: front, (c :: piece) :: before, last,
        hdocument, hpushed.trans (if_neg hc'), hlength⟩

theorem stop_fullRange {text : String} {before : List (List Char)} {last : List Char}
    (hpieces : pieces '\n' text.toList = before ++ [last])
    (hshort : units text.toList < limit32) :
    (fullRange text).stop.line.toNat = before.length ∧
      (fullRange text).stop.character.toNat = units last := by
  obtain ⟨front, others, tail, hlines, hsame, hlength⟩ := splitLines_eq text.toList
  obtain ⟨rfl, hlast⟩ := List.append_inj' (hpieces.symm.trans hsame) rfl
  obtain rfl := (List.cons.inj hlast).1
  have hstop : (fullRange text).stop = ⟨.ofNat before.length, width last⟩ := by
    unfold fullRange
    simp only [hpieces, List.getLastD_concat, List.length_append, List.length_singleton,
      Nat.add_sub_cancel]
  have hcount : before.length < limit32 := calc
    before.length ≤ (splitLines text.toList).length := by
      rw [← hlength, hlines, List.length_append]
      exact Nat.le_add_right _ _
    _ ≤ text.toList.length := length_splitLines_le _
    _ ≤ units text.toList := length_le_units _
    _ < limit32 := hshort
  have hwidth : units last ≤ units text.toList := by
    cases last with
    | nil => exact Nat.zero_le _
    | cons c last =>
      exact units_le_of_mem_splitLines (hlines ▸ List.mem_append_right _ (List.mem_singleton_self _))
  rw [hstop]
  exact ⟨UInt32.toNat_ofNat_of_lt' hcount,
    UInt32.toNat_ofNat_of_lt' (Nat.lt_of_le_of_lt hwidth hshort)⟩

/-- Where the edit for a whole document ends, if its numbers have room in 32 bits. -/
structure EndsAll (text : List Char) (p : Position) : Prop where
  place : HasPlace text p
  index : index text p = text.length

theorem endsAll_fullRange {text : String} (hpaired : ReturnsPaired text.toList)
    (hshort : units text.toList < limit32) : EndsAll text.toList (fullRange text).stop := by
  obtain ⟨front, before, last, hlines, hpieces, hlength⟩ := documentLines_eq hpaired
  have hwhole : text.toList = front.flatMap DocumentLine.whole ++ last := by
    have hall := flatMap_documentLines text.toList
    rw [hlines, List.flatMap_append] at hall
    simpa [DocumentLine.whole] using hall.symm
  obtain ⟨hline, hcharacter⟩ := stop_fullRange hpieces hshort
  rw [← hlength] at hline
  have hget : (documentLines text.toList)[(fullRange text).stop.line.toNat]? =
      some ⟨last, []⟩ := by
    rw [hline, hlines]
    exact List.getElem?_concat_length
  have hunits : units (last.take last.length) = (fullRange text).stop.character.toNat := by
    rw [List.take_length, hcharacter]
  constructor
  · exact ⟨_, hget, last.length, Nat.le_refl _, hunits⟩
  · unfold index
    simp only [hget]
    rw [← hunits, charsWithin_units_take (Nat.le_refl _), hline, hlines, List.take_left, hwhole,
      List.length_append]

theorem index_zero (text : List Char) : index text ⟨0, 0⟩ = 0 := by
  unfold index
  cases hlines : documentLines text with
  | nil =>
    have hall := flatMap_documentLines text
    rw [hlines] at hall
    simp [← hall]
  | cons line lines =>
    have hwithin : charsWithin line.chars 0 = 0 := charsWithin_units_take (Nat.zero_le _)
    show 0 + charsWithin line.chars 0 = 0
    rw [hwithin]

/-- A document below the limits of 32 bits, whose carriage returns all come with newlines,
becomes the new text. -/
theorem applyEdits_wholeDocumentEdits {before : String} (hpaired : ReturnsPaired before.toList)
    (hshort : units before.toList < limit32) (after : String) :
    applyEdits before (wholeDocumentEdits before after) = after ∧
      (wholeDocumentEdits before after = [] ↔ before = after) ∧
      (before ≠ after → ∃ edit, wholeDocumentEdits before after = [edit] ∧
        edit.range.start = ⟨0, 0⟩ ∧ EndsAll before.toList edit.range.stop) := by
  unfold wholeDocumentEdits
  by_cases heq : after = before
  · rw [if_pos heq]
    refine ⟨?_, by simp [heq], fun hne => absurd heq.symm hne⟩
    rw [heq]
    exact String.ofList_toList
  · have hends := endsAll_fullRange hpaired hshort
    rw [if_neg heq]
    refine ⟨?_, by simp [Ne.symm heq], fun _ => ⟨_, rfl, rfl, hends⟩⟩
    have hstart : index before.toList (fullRange before).start = 0 := index_zero before.toList
    unfold applyEdits patched patched
    simp only [hstart, hends.index]
    simp

theorem applyEdits_wholeDocumentEdits_mixed :
    let before := "if true\r\n\necho 😀"
    let after := "if true\n\n    echo 😀\n"
    ReturnsPaired before.toList ∧ units before.toList < limit32 ∧
      wholeDocumentEdits before after = [⟨⟨⟨0, 0⟩, ⟨2, 7⟩⟩, after⟩] ∧
      applyEdits before [⟨⟨⟨0, 0⟩, ⟨2, 7⟩⟩, after⟩] = after ∧ EndsAll before.toList ⟨2, 7⟩ := by
  intro before after
  have hpaired : ReturnsPaired before.toList := by decide
  have hshort : units before.toList < limit32 := by decide
  have hedits : wholeDocumentEdits before after = [⟨⟨⟨0, 0⟩, ⟨2, 7⟩⟩, after⟩] := by decide
  obtain ⟨happly, -, hone⟩ := applyEdits_wholeDocumentEdits hpaired hshort after
  obtain ⟨edit, hedit, -, hends⟩ := hone (by decide)
  rw [hedits] at happly hedit
  obtain rfl := (List.cons.inj hedit).1
  exact ⟨hpaired, hshort, hedits, happly, hends⟩

/-- An editor ends a line at a carriage return that stands alone, and so keeps what follows. -/
example : applyEdits "a\rb" (wholeDocumentEdits "a\rb" "c") = "c\rb" := by decide

end ScriptCheck.Editor
