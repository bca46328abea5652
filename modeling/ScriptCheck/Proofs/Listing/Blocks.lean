import Mathlib.Data.List.Forall2
import ScriptCheck.Proofs.Listing.Lookahead

/-! A listing that is made of blocks: a header, the source line it is about and the markers under
that line. Each block gives the diagnostic of its header. The source line is whatever the script
has there; read by itself it may be taken for markers, which then give the span, or for the header
of one more error, to which the markers then belong. -/

namespace ScriptCheck.Listing

open Text

variable {relabel : Option Path} {s marks above : List Char} {location : Location}

/-- One error as it is listed. The blank in front of the message counts for the markers that are
looked for in it. -/
structure Block where
  file : String
  line : Nat
  message : String
  source : List Char
  marks : List Char
  file_ne : file ≠ ""
  one_le_line : 1 ≤ line
  line_lt : line < limit64
  message_ne : message ≠ ""
  message_single : ¬ HoldsMarker (' ' :: message.toList)
  isCaretLine_marks : IsCaretLine marks

namespace Block

variable {b : Block} {d : Diagnostic}

def header (b : Block) : Header :=
  ⟨b.file.toList, (toString b.line).toList, b.message.toList⟩

def lines (b : Block) : List (List Char) :=
  [(headerText b.file b.line b.message).toList, b.source, b.marks]

theorem denotes (b : Block) : Denotes b.header.digits b.line := denotes_toString b.line_lt

theorem isLongest (b : Block) :
    b.header.IsLongest (headerText b.file b.line b.message).toList :=
  (reads_headerText b.file_ne b.message_ne b.denotes).isLongest b.message_single

end Block

def PlacedBy (above marks : List Char) (location : Location) : Prop :=
  ∃ first last, Marks marks first last ∧
    location.column = some (charAtCell above first + 1) ∧
    location.endColumn = some (charAtCell above last + 2)

structure Block.Attributed (relabel : Option Path) (b : Block) (d : Diagnostic) : Prop where
  gives : b.header.Gives b.line relabel d
  placed : PlacedBy b.source b.marks d.location

/-- What a block gives, by what its source line looks like. -/
inductive Block.Shows (relabel : Option Path) (b : Block) : List Diagnostic → Prop
  | plain {d : Diagnostic} (hheader : ¬ HeaderShaped b.source) (hcaret : ¬ IsCaretLine b.source)
    (attributed : b.Attributed relabel d) : b.Shows relabel [d]
  | marked {d : Diagnostic} (hcaret : IsCaretLine b.source)
    (gives : b.header.Gives b.line relabel d) (placed : PlacedBy [] b.source d.location) :
    b.Shows relabel [d]
  | headed {d : Diagnostic} {found : Option Diagnostic} (hheader : HeaderShaped b.source)
    (gives : b.header.Gives b.line relabel d) (column : d.location.column = none)
    (endColumn : d.location.endColumn = none) (next : Found relabel b.source found)
    (placed : ∀ e ∈ found, PlacedBy [] b.marks e.location) : b.Shows relabel (d :: found.toList)

theorem IsCaretLine.not_headerShaped (hs : IsCaretLine s) : ¬ HeaderShaped s :=
  fun ⟨h, hr⟩ => hs.not_reads h hr

theorem diagnostic?_of_not_headerShaped (hs : ¬ HeaderShaped s) (below : List (List Char)) :
    diagnostic? relabel s below = none :=
  diagnostic?_eq_none fun h _ hlongest => absurd ⟨h, hlongest.1⟩ hs

theorem reach_cons (hs : ¬ HeaderShaped s) (hmarks : ¬ HeaderShaped marks) :
    reach [s, marks] = [s, marks] := by
  simp [reach, hs, hmarks]

theorem placedBy_diagnostic (relabel : Option Path) {below before after : List (List Char)}
    (hreach : reach below = before ++ marks :: after) (hmarks : IsCaretLine marks)
    (hbefore : ∀ line ∈ before, ¬ IsCaretLine line) (h : Header) (n : Nat) :
    PlacedBy (before.getLastD []) marks (h.diagnostic n relabel below).location := by
  obtain ⟨first, last, hcells, hspan⟩ := span?_eq_some hreach hmarks hbefore
  exact ⟨first, last, hcells, location_of_span h n relabel hspan⟩

namespace Block

variable (relabel) (b : Block)

theorem diagnosticsOfLines_lines : diagnosticsOfLines relabel b.lines =
    b.header.diagnostic b.line relabel [b.source, b.marks] ::
      (diagnostic? relabel b.source [b.marks]).toList := by
  have hmarks : diagnostic? relabel b.marks [] = none :=
    diagnostic?_of_not_headerShaped b.isCaretLine_marks.not_headerShaped []
  unfold lines
  rw [diagnosticsOfLines, diagnosticsOfLines, diagnosticsOfLines, diagnosticsOfLines,
    diagnostic?_eq_some b.isLongest b.denotes, hmarks]
  simp

theorem shows_diagnosticsOfLines : b.Shows relabel (diagnosticsOfLines relabel b.lines) := by
  have hmarks := b.isCaretLine_marks.not_headerShaped
  have hgives := b.header.gives_diagnostic b.line relabel [b.source, b.marks]
  rw [diagnosticsOfLines_lines]
  by_cases hheader : HeaderShaped b.source
  · have hspan : span? [b.source, b.marks] = none :=
      span?_eq_none fun line hline => by simp [reach, hheader] at hline
    obtain ⟨hcolumn, hend⟩ := location_of_no_span b.header b.line relabel hspan
    refine .headed hheader hgives hcolumn hend (found_diagnostic? relabel b.source [b.marks]) ?_
    intro e he
    have hreach : reach [b.marks] = [] ++ b.marks :: [] := by simp [reach, hmarks]
    by_cases hnumbered : ∃ (h : Header) (n : Nat), h.IsLongest b.source ∧ Denotes h.digits n
    · obtain ⟨h, n, hlongest, hn⟩ := hnumbered
      rw [diagnostic?_eq_some hlongest hn, Option.mem_some_iff] at he
      rw [← he]
      exact placedBy_diagnostic relabel hreach b.isCaretLine_marks nofun h n
    · rw [diagnostic?_eq_none fun h n hlongest hn => hnumbered ⟨h, n, hlongest, hn⟩] at he
      cases he
  · rw [diagnostic?_of_not_headerShaped hheader]
    have hfirst : reach [b.source, b.marks] = [] ++ b.source :: [b.marks] :=
      reach_cons hheader hmarks
    have hsecond : reach [b.source, b.marks] = [b.source] ++ b.marks :: [] :=
      reach_cons hheader hmarks
    by_cases hcaret : IsCaretLine b.source
    · have hplaced := placedBy_diagnostic relabel hfirst hcaret nofun b.header b.line
      exact .marked hcaret hgives hplaced
    · have hplaced := placedBy_diagnostic relabel hsecond b.isCaretLine_marks
        (by simpa using hcaret) b.header b.line
      exact .plain hheader hcaret ⟨hgives, hplaced⟩

theorem headerShaped_head : HeaderShaped (headerText b.file b.line b.message).toList :=
  ⟨b.header, b.isLongest.1⟩

end Block

theorem diagnosticsOfLines_blocks (relabel : Option Path) (blocks : List Block) :
    diagnosticsOfLines relabel (blocks.flatMap Block.lines) =
      blocks.flatMap fun b => diagnosticsOfLines relabel b.lines := by
  induction blocks with
  | nil => rfl
  | cons b blocks ih =>
    rw [List.flatMap_cons, List.flatMap_cons, ← ih]
    cases blocks with
    | nil => simp [diagnosticsOfLines]
    | cons next blocks =>
      rw [List.flatMap_cons]
      exact diagnosticsOfLines_append next.headerShaped_head b.lines _

theorem Block.Shows.of_plain {b : Block} {ds : List Diagnostic} (hshows : b.Shows relabel ds)
    (hheader : ¬ HeaderShaped b.source) (hcaret : ¬ IsCaretLine b.source) :
    ∃ d, ds = [d] ∧ b.Attributed relabel d := by
  cases hshows with
  | plain _ _ attributed => exact ⟨_, rfl, attributed⟩
  | marked hmarks => exact absurd hmarks hcaret
  | headed hheaded => exact absurd hheaded hheader

theorem attributed_of_plain {blocks : List Block}
    (hplain : ∀ b ∈ blocks, ¬ HeaderShaped b.source ∧ ¬ IsCaretLine b.source) :
    List.Forall₂ (Block.Attributed relabel) blocks
      (blocks.flatMap fun b => diagnosticsOfLines relabel b.lines) := by
  induction blocks with
  | nil => exact .nil
  | cons b blocks ih =>
    obtain ⟨hb, hrest⟩ := List.forall_mem_cons.mp hplain
    obtain ⟨d, hd, hattributed⟩ := (b.shows_diagnosticsOfLines relabel).of_plain hb.1 hb.2
    rw [List.flatMap_cons, hd, List.singleton_append]
    exact .cons hattributed (ih hrest)

/-- A listing of blocks gives, block by block, what each of them gives, and so just one diagnostic
for each block, with the columns of its own source line, where no source line can be taken for a
header or for markers. -/
theorem attributed_diagnostics {text : String} {blocks : List Block}
    (hlines : splitLines text.toList = blocks.flatMap Block.lines) (relabel : Option Path) :
    (∃ groups, List.Forall₂ (Block.Shows relabel) blocks groups ∧
      diagnostics text relabel = groups.flatten) ∧
    ((∀ b ∈ blocks, ¬ HeaderShaped b.source ∧ ¬ IsCaretLine b.source) →
      List.Forall₂ (Block.Attributed relabel) blocks (diagnostics text relabel)) := by
  have htext : diagnostics text relabel =
      blocks.flatMap fun b => diagnosticsOfLines relabel b.lines := by
    unfold diagnostics
    rw [hlines, diagnosticsOfLines_blocks]
  rw [htext]
  refine ⟨⟨blocks.map fun b => diagnosticsOfLines relabel b.lines, ?_, ?_⟩, attributed_of_plain⟩
  · rw [List.forall₂_map_right_iff, List.forall₂_same]
    exact fun b _ => b.shows_diagnosticsOfLines relabel
  · exact List.flatMap_def

theorem attributed_diagnostics_nearly : ∃ a b : Block,
    (a.source = "echo 日 )".toList ∧ a.marks = "        ^~".toList) ∧
    (b.source = "echo a(line 3): '".toList ∧ b.marks = "                ^".toList) ∧
    List.Forall₂ (Block.Attributed none) [a, b] (diagnostics
      ("a (line 9).fish (line 2): Bad (line 3):\necho 日 )\n        ^~\r\n" ++
        "Standard input (line 1): No\r\necho a(line 3): '\n                ^") none) := by
  let a : Block := {
    file := "a (line 9).fish", line := 2, message := "Bad (line 3):"
    source := "echo 日 )".toList, marks := "        ^~".toList
    file_ne := by decide, one_le_line := by decide, line_lt := by decide, message_ne := by decide
    message_single := by decide +kernel, isCaretLine_marks := by decide +kernel }
  let b : Block := {
    file := "Standard input", line := 1, message := "No"
    source := "echo a(line 3): '".toList, marks := "                ^".toList
    file_ne := by decide, one_le_line := by decide, line_lt := by decide, message_ne := by decide
    message_single := by decide +kernel, isCaretLine_marks := by decide +kernel }
  refine ⟨a, b, ⟨rfl, rfl⟩, ⟨rfl, rfl⟩, ?_⟩
  have hplain : ∀ c ∈ [a, b], ¬ HeaderShaped c.source ∧ ¬ IsCaretLine c.source := by
    simp only [List.forall_mem_cons]
    decide +kernel
  exact (attributed_diagnostics (by decide +kernel) none).2 hplain

/-- A source line that reads as a header is taken for one more error, and one of markers gives the
span itself. A message that is only short of a marker by the blank before it makes its header read
as another one. -/
theorem not_attributed_of_source :
    (∃ b : Block, b.source = "b.fish (line 4): second".toList ∧
      splitLines "a.fish (line 1): first\nb.fish (line 4): second\n  ^\n".toList = b.lines ∧
      ¬ List.Forall₂ (Block.Attributed none) [b]
        (diagnostics "a.fish (line 1): first\nb.fish (line 4): second\n  ^\n" none)) ∧
    (∃ b : Block, b.source = "^^^".toList ∧
      splitLines "a.fish (line 1): first\n^^^\n  ^\n".toList = b.lines ∧
      ¬ List.Forall₂ (Block.Attributed none) [b]
        (diagnostics "a.fish (line 1): first\n^^^\n  ^\n" none)) ∧
    ¬ HoldsMarker "(line 3): x".toList ∧
      splitLines "a.fish (line 1): (line 3): x\nend\n^\n".toList =
        [(headerText "a.fish" 1 "(line 3): x").toList, "end".toList, "^".toList] ∧
      diagnostics "a.fish (line 1): (line 3): x\nend\n^\n" none =
        [{ tool := "fish", rule := "syntax-error", message := "x", severity := .error
           location := ⟨⟨"a.fish (line 1):"⟩, 3, some 1, some 2⟩ }] := by
  let first (source : String) : Block := {
    file := "a.fish", line := 1, message := "first"
    source := source.toList, marks := "  ^".toList
    file_ne := by decide, one_le_line := by decide, line_lt := by decide, message_ne := by decide
    message_single := by decide +kernel, isCaretLine_marks := by decide +kernel }
  refine ⟨⟨first "b.fish (line 4): second", rfl, by decide +kernel, ?_⟩,
    ⟨first "^^^", rfl, by decide +kernel, ?_⟩, by decide +kernel⟩
  · have htwo : (diagnostics "a.fish (line 1): first\nb.fish (line 4): second\n  ^\n" none).length
        = 2 := by decide +kernel
    intro hall
    cases hall.length_eq.trans htwo
  · have hone : diagnostics "a.fish (line 1): first\n^^^\n  ^\n" none =
        [{ tool := "fish", rule := "syntax-error", message := "first", severity := .error
           location := ⟨⟨"a.fish"⟩, 1, some 1, some 4⟩ }] := by decide +kernel
    rw [hone]
    rintro (_ | ⟨⟨-, i, j, hmarks, hcolumn, -⟩, -⟩)
    obtain ⟨c, hc, hmarker⟩ := hmarks.firstMarker
    have hlt : i < 3 := (List.getElem?_eq_some_iff.mp hc).1
    have hi : i = 2 := by
      match i, hlt with
      | 0, _ | 1, _ =>
        cases hc
        cases hmarker
      | 2, _ => rfl
    rw [hi] at hcolumn
    exact absurd hcolumn (by decide +kernel)

end ScriptCheck.Listing
