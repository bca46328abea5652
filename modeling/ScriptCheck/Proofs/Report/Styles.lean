import Mathlib.Data.List.Forall2
import ScriptCheck.Proofs.Text.Blank
import ScriptCheck.Report.Basic

/-! Reports with and without colours. A terminal shows the same text for both: the styles are all
that one has more than the other, and trimming the end of a report takes as much from both. -/

namespace ScriptCheck

open Text

variable {c : Char} {s t u v rest : List Char}

def isStyleNumber (c : Char) : Bool := c.isDigit || c = ';'

def afterStyle? : List Char → Option (List Char)
  | '\x1b' :: '[' :: s =>
    match s.dropWhile isStyleNumber with
    | 'm' :: rest => some rest
    | _ => none
  | _ => none

theorem length_of_afterStyle? (h : afterStyle? s = some rest) : rest.length < s.length := by
  unfold afterStyle? at h
  split at h
  · rename_i s
    have hdrop := (List.dropWhile_sublist isStyleNumber (l := s)).length_le
    split at h
    · rename_i hm
      cases h
      rw [hm] at hdrop
      simp only [List.length_cons] at hdrop ⊢
      omega
    · cases h
  · cases h

/-- A text as a terminal shows it, without its style sequences. -/
def shown (s : List Char) : List Char :=
  match _h : afterStyle? s with
  | some rest => shown rest
  | none =>
    match s with
    | [] => []
    | c :: rest => c :: shown rest
termination_by s.length
decreasing_by
  · exact length_of_afterStyle? _h
  · simp

theorem shown_of_afterStyle? (h : afterStyle? s = some rest) : shown s = shown rest := by
  rw [shown]
  split
  · rename_i heq
    rw [h] at heq
    cases heq
    rfl
  · rename_i heq
    rw [h] at heq
    cases heq

theorem shown_cons (hc : c ≠ '\x1b') (s : List Char) : shown (c :: s) = c :: shown s := by
  have hnone : afterStyle? (c :: s) = none := by
    unfold afterStyle?
    split
    · rename_i heq
      exact absurd (List.cons.inj heq).1 hc
    · rfl
  rw [shown]
  split
  · rename_i heq
    rw [hnone] at heq
    cases heq
  · rfl

theorem shown_nil : shown [] = [] := by
  rw [shown]
  rfl

theorem shown_append (hs : '\x1b' ∉ s) (t : List Char) : shown (s ++ t) = s ++ shown t := by
  induction s with
  | nil => rfl
  | cons c s ih =>
    rw [List.mem_cons, not_or] at hs
    rw [List.cons_append, shown_cons (Ne.symm hs.1), ih hs.2, List.cons_append]

theorem afterStyle?_numbers {numbers : List Char} (hnumbers : ∀ c ∈ numbers, isStyleNumber c)
    (rest : List Char) : afterStyle? ('\x1b' :: '[' :: (numbers ++ 'm' :: rest)) = some rest := by
  have hdrop : (numbers ++ 'm' :: rest).dropWhile isStyleNumber = 'm' :: rest :=
    List.dropWhile_append_of_pos hnumbers
  unfold afterStyle?
  simp only [hdrop]

structure Stylable (word : List Char) : Prop where
  visible : ∃ front c, word = front ++ [c] ∧ ¬ isBlank c
  unstyled : '\x1b' ∉ word

/-- The first text is the second one with some of its words in a style. -/
inductive Colours : List Char → List Char → Prop
  | nil : Colours [] []
  | char {c : Char} {s t : List Char} (hc : c ≠ '\x1b') (h : Colours s t) :
    Colours (c :: s) (c :: t)
  | painted (style : Style) {word s t : List Char} (hword : Stylable word) (h : Colours s t) :
    Colours ((style.paint (.ofList word)).toList ++ s) (word ++ t)

def plainAgain : List Char := ['\x1b', '[', '0', 'm']

theorem Style.toList_paint (style : Style) (word s : List Char) :
    (style.paint (.ofList word)).toList ++ s =
      '\x1b' :: '[' :: (style.code.toList ++ 'm' :: (word ++ (plainAgain ++ s))) := by
  simp [Style.paint, plainAgain]

theorem Style.isStyleNumber_of_mem (style : Style) : ∀ c ∈ style.code.toList, isStyleNumber c :=
  List.all_eq_true.mp (by cases style <;> decide)

namespace Colours

theorem append (hst : Colours s t) (huv : Colours u v) : Colours (s ++ u) (t ++ v) := by
  induction hst with
  | nil => exact huv
  | char hc _ ih => exact .char hc ih
  | painted style hword _ ih =>
    rw [List.append_assoc, List.append_assoc]
    exact .painted style hword ih

theorem of_notMem (hs : '\x1b' ∉ s) : Colours s s := by
  induction s with
  | nil => exact .nil
  | cons c s ih =>
    rw [List.mem_cons, not_or] at hs
    exact .char (Ne.symm hs.1) (ih hs.2)

theorem shown_eq (h : Colours s t) : shown s = t := by
  induction h with
  | nil => exact shown_nil
  | char hc _ ih => rw [shown_cons hc, ih]
  | @painted style word s t hword _ ih =>
    have hzero : ∀ c ∈ ['0'], isStyleNumber c := List.forall_mem_singleton.mpr rfl
    have hagain : afterStyle? (plainAgain ++ s) = some s := afterStyle?_numbers hzero s
    rw [style.toList_paint, shown_of_afterStyle? (afterStyle?_numbers style.isStyleNumber_of_mem _),
      shown_append hword.unstyled, shown_of_afterStyle? hagain, ih]

theorem eq_nil_iff (h : Colours s t) : s = [] ↔ t = [] := by
  cases h with
  | nil => exact Iff.rfl
  | char hc _ => exact iff_of_false (List.cons_ne_nil _ _) (List.cons_ne_nil _ _)
  | painted style hword _ =>
    obtain ⟨front, c, rfl, -⟩ := hword.visible
    rw [style.toList_paint]
    exact iff_of_false (List.cons_ne_nil _ _) (by simp)

theorem trimEnd (h : Colours s t) : Colours (Text.trimEnd s) (Text.trimEnd t) := by
  induction h with
  | nil => exact .nil
  | @char c s t hc _ ih =>
    rw [trimEnd_cons, trimEnd_cons]
    simp only [ih.eq_nil_iff]
    split
    · exact .nil
    · exact .char hc ih
  | @painted style word s t hword _ ih =>
    obtain ⟨front, c, hlast, hc⟩ := hword.visible
    have hplain : Text.trimEnd (word ++ t) = word ++ Text.trimEnd t := by
      rw [hlast, List.append_assoc, List.append_assoc]
      exact trimEnd_append_cons front hc t
    have hpainted : Text.trimEnd ((style.paint (.ofList word)).toList ++ s) =
        (style.paint (.ofList word)).toList ++ Text.trimEnd s := by
      have hback (s : List Char) : (style.paint (.ofList word)).toList ++ s =
          '\x1b' :: '[' :: (style.code.toList ++ 'm' :: (word ++ ['\x1b', '[', '0'])) ++
            'm' :: s := by
        simp [style.toList_paint, plainAgain]
      rw [hback, hback]
      exact trimEnd_append_cons _ (by decide) s
    rw [hplain, hpainted]
    exact .painted style hword ih

end Colours

def EscapeFree (text : String) : Prop := '\x1b' ∉ text.toList

instance (text : String) : Decidable (EscapeFree text) := inferInstanceAs (Decidable (_ ∉ _))

def Coloured (text : Bool → String) : Prop := Colours (text true).toList (text false).toList

namespace Coloured

variable {f g : Bool → String}

theorem of_escapeFree {text : String} (htext : EscapeFree text) : Coloured fun _ => text :=
  Colours.of_notMem htext

theorem append (hf : Coloured f) (hg : Coloured g) :
    Coloured fun colors => f colors ++ g colors := by
  unfold Coloured
  rw [String.toList_append, String.toList_append]
  exact Colours.append hf hg

theorem paintIf (style : Style) {word : String} (hword : Stylable word.toList) :
    Coloured fun colors => style.paintIf colors word := by
  have hpainted := Colours.painted style hword .nil
  rw [String.ofList_toList, List.append_nil, List.append_nil] at hpainted
  exact hpainted

end Coloured

theorem EscapeFree.append {a b : String} (ha : EscapeFree a) (hb : EscapeFree b) :
    EscapeFree (a ++ b) := by
  unfold EscapeFree
  rw [String.toList_append, List.mem_append, not_or]
  exact ⟨ha, hb⟩

theorem escapeFree_toString (n : Nat) : EscapeFree (toString n) := by
  intro hmem
  rw [show (toString n).toList = Nat.toDigits 10 n from Nat.toList_repr] at hmem
  have hdigit := Nat.isDigit_of_mem_toDigits (by decide) (Nat.le_refl 10) hmem
  exact absurd hdigit (by decide)

structure Diagnostic.Unstyled (d : Diagnostic) : Prop where
  file : EscapeFree d.location.file.text
  rule : EscapeFree d.rule
  message : EscapeFree d.message

theorem Severity.stylable_name (severity : Severity) : Stylable severity.name.toList := by
  cases severity
  · exact ⟨⟨"erro".toList, 'r', rfl, by decide⟩, by decide⟩
  · exact ⟨⟨"warnin".toList, 'g', rfl, by decide⟩, by decide⟩
  · exact ⟨⟨"inf".toList, 'o', rfl, by decide⟩, by decide⟩
  · exact ⟨⟨"hin".toList, 't', rfl, by decide⟩, by decide⟩

theorem Diagnostic.Unstyled.coloured_line {d : Diagnostic} (hd : d.Unstyled) : Coloured d.line := by
  have hcolon : EscapeFree ":" := by decide
  have hspaced : EscapeFree ": " := by decide
  have hopen : EscapeFree " [" := by decide
  have hclose : EscapeFree "] " := by decide
  have hline (position : String) (hposition : EscapeFree position) : Coloured fun colors =>
      d.location.file.text ++ ":" ++ position ++ ": "
        ++ d.severity.style.paintIf colors d.severity.name ++ " [" ++ d.rule ++ "] " ++ d.message :=
    have hplace := ((hd.file.append hcolon).append hposition).append hspaced
    have hname := Coloured.paintIf d.severity.style d.severity.stylable_name
    (((((Coloured.of_escapeFree hplace).append hname).append (.of_escapeFree hopen)).append
      (.of_escapeFree hd.rule)).append (.of_escapeFree hclose)).append (.of_escapeFree hd.message)
  obtain ⟨tool, rule, message, severity, file, line, column, endColumn⟩ := d
  cases column with
  | none => exact hline _ (escapeFree_toString line)
  | some column =>
    exact hline _ (((escapeFree_toString line).append hcolon).append (escapeFree_toString column))

theorem coloured_failureLine {failure : String} (hfailure : EscapeFree failure) :
    Coloured fun _ => failureLine failure :=
  .of_escapeFree (EscapeFree.append (by decide) hfailure)

theorem FormatReport.coloured_entry (check : Bool) {d : Diagnostic} (hd : d.Unstyled) :
    Coloured fun colors => FormatReport.entry check colors d := by
  cases check with
  | true => exact hd.coloured_line
  | false => exact .of_escapeFree (EscapeFree.append (by decide) hd.file)

structure ToolEntry.Unstyled (t : ToolEntry) : Prop where
  name : EscapeFree t.name
  category : EscapeFree t.category
  version : ∀ version ∈ t.version, EscapeFree version
  executable : EscapeFree t.executable
  resolved : ∀ place ∈ t.resolved, EscapeFree place
  website : EscapeFree t.website

def ColouredLines (lines : Bool → List String) : Prop :=
  List.Forall₂ (fun a b => Colours a.toList b.toList) (lines true) (lines false)

theorem toList_stacked (lines : List String) :
    (stacked lines).toList = trimEnd (lines.flatMap fun line => line.toList ++ ['\n']) := by
  simp [stacked, trimmedEnd, String.toList_join, List.flatMap_map]

namespace ColouredLines

variable {α : Type} {entries : List α} {lines more : Bool → List String}

theorem map {f : Bool → α → String} (hf : ∀ a ∈ entries, Coloured fun colors => f colors a) :
    ColouredLines fun colors => entries.map (f colors) := by
  unfold ColouredLines
  rw [List.forall₂_map_left_iff, List.forall₂_map_right_iff, List.forall₂_same]
  exact hf

theorem append (hlines : ColouredLines lines) (hmore : ColouredLines more) :
    ColouredLines fun colors => lines colors ++ more colors :=
  List.rel_append hlines hmore

theorem flatMap {f : Bool → α → List String}
    (hf : ∀ a ∈ entries, ColouredLines fun colors => f colors a) :
    ColouredLines fun colors => entries.flatMap (f colors) := by
  induction entries with
  | nil => exact .nil
  | cons a entries ih =>
    obtain ⟨ha, hentries⟩ := List.forall_mem_cons.mp hf
    exact append ha (ih hentries)

theorem stacked (hlines : ColouredLines lines) : Coloured fun colors => stacked (lines colors) := by
  have hjoined : ∀ {a b : List String}, List.Forall₂ (fun a b => Colours a.toList b.toList) a b →
      Colours (a.flatMap fun line => line.toList ++ ['\n'])
        (b.flatMap fun line => line.toList ++ ['\n']) := by
    intro a b h
    induction h with
    | nil => exact .nil
    | cons hline _ ih => exact (hline.append (.of_notMem (by decide))).append ih
  unfold Coloured
  rw [toList_stacked, toList_stacked]
  exact (hjoined hlines).trimEnd

end ColouredLines

theorem ToolEntry.Unstyled.coloured_prettyLines {t : ToolEntry} (ht : t.Unstyled) :
    ColouredLines t.prettyLines := by
  have hversion : EscapeFree t.versionText := by
    unfold ToolEntry.versionText
    cases hcase : t.version with
    | none => decide
    | some version => exact ht.version version hcase
  have hplace : EscapeFree t.place := by
    unfold ToolEntry.place
    cases hcase : t.resolved with
    | none => exact ht.executable
    | some place => exact ht.resolved place hcase
  have hmark : Coloured fun colors => t.mark colors := by
    unfold ToolEntry.mark
    cases t.available with
    | true => exact .paintIf .green ⟨⟨[], '✓', rfl, by decide⟩, by decide⟩
    | false => exact .paintIf .red ⟨⟨[], '✗', rfl, by decide⟩, by decide⟩
  have hindent : EscapeFree "  " := by decide
  have hspace : EscapeFree " " := by decide
  have hopen : EscapeFree " (" := by decide
  have hclose : EscapeFree ") - " := by decide
  have hexecutable : EscapeFree "    Executable: " := by decide
  have hwebsite : EscapeFree "    Website: " := by decide
  have hfirst := (((((((Coloured.of_escapeFree hindent).append hmark).append
    (.of_escapeFree hspace)).append (.of_escapeFree ht.name)).append (.of_escapeFree hopen)).append
    (.of_escapeFree ht.category)).append (.of_escapeFree hclose)).append (.of_escapeFree hversion)
  have hsecond := Coloured.of_escapeFree (hexecutable.append hplace)
  have hthird := Coloured.of_escapeFree (hwebsite.append ht.website)
  exact .cons hfirst (.cons hsecond (.cons hthird .nil))

def shownText (text : String) : String := .ofList (shown text.toList)

theorem Coloured.shownText_eq {f : Bool → String} (hf : Coloured f) :
    shownText (f true) = f false := by
  rw [shownText, Colours.shown_eq hf, String.ofList_toList]

/-- A text is what another one is without the blanks at its very end. -/
structure TrimmedFrom (text whole : String) : Prop where
  blanks : ∃ blanks, whole = text ++ blanks ∧ ∀ c ∈ blanks.toList, isBlank c
  last : ∀ c ∈ text.toList.getLast?, ¬ isBlank c

theorem flatMap_newline {lines : List String} (hne : lines ≠ []) :
    (lines.flatMap fun line => line.toList ++ ['\n']) =
      ("\n".intercalate lines).toList ++ ['\n'] := by
  rw [String.toList_intercalate]
  induction lines with
  | nil => exact absurd rfl hne
  | cons line lines ih =>
    cases lines with
    | nil => simp [List.intercalate]
    | cons next lines =>
      rw [List.flatMap_cons, ih (List.cons_ne_nil _ _)]
      simp only [List.map_cons, List.intercalate_cons_cons]
      simp

theorem toList_stacked_eq (lines : List String) :
    (stacked lines).toList = trimEnd ("\n".intercalate lines).toList := by
  rw [toList_stacked]
  by_cases hne : lines = []
  · rw [hne]
    rfl
  · rw [flatMap_newline hne, trimEnd_concat_blank _ (by decide)]

theorem trimmedFrom_stacked (lines : List String) :
    TrimmedFrom (stacked lines) ("\n".intercalate lines) := by
  obtain ⟨blanks, hsplit, hblanks⟩ := exists_trimEnd_append ("\n".intercalate lines).toList
  refine ⟨⟨.ofList blanks, ?_, ?_⟩, ?_⟩
  · rw [← String.toList_inj, String.toList_append, toList_stacked_eq, String.toList_ofList]
    exact hsplit
  · rwa [String.toList_ofList]
  · rw [toList_stacked_eq]
    exact fun c hc => not_isBlank_of_getLast? hc

structure LintReport.Unstyled (r : LintReport) : Prop where
  diagnostics : ∀ d ∈ r.diagnostics, d.Unstyled
  failures : ∀ failure ∈ r.failures, EscapeFree failure

structure FormatReport.Unstyled (r : FormatReport) : Prop where
  diagnostics : ∀ d ∈ r.diagnostics, d.Unstyled
  failures : ∀ failure ∈ r.failures, EscapeFree failure

def ToolList.Unstyled (l : ToolList) : Prop := ∀ t ∈ l.tools, t.Unstyled

theorem LintReport.Unstyled.coloured_text {r : LintReport} (hr : r.Unstyled) : Coloured r.text :=
  ((ColouredLines.map fun d hd => (hr.diagnostics d hd).coloured_line).append
    (.map fun failure hfailure => coloured_failureLine (hr.failures failure hfailure))).stacked

theorem FormatReport.Unstyled.coloured_text {r : FormatReport} (hr : r.Unstyled) :
    Coloured r.text :=
  ((ColouredLines.map fun d hd => FormatReport.coloured_entry r.check (hr.diagnostics d hd)).append
    (.map fun failure hfailure => coloured_failureLine (hr.failures failure hfailure))).stacked

theorem ToolList.Unstyled.coloured_pretty {l : ToolList} (hl : l.Unstyled) :
    Coloured (Printable.pretty l) :=
  (ColouredLines.flatMap fun t ht => (hl t ht).coloured_prettyLines).stacked

open Printable (plain pretty)

/-- Where no string has an escape character, reports for people show the same text with and
without colours, and for the reports of the checks that is the plain text. The plain text has an
entry for every diagnostic and then one for every failure, and is cut only at its very end. -/
theorem shownText_pretty :
    (∀ r : LintReport,
      (r.Unstyled → shownText (pretty r true) = pretty r false ∧
        shownText (pretty r true) = plain r) ∧
      TrimmedFrom (plain r)
        ("\n".intercalate (r.diagnostics.map (·.line false) ++ r.failures.map failureLine))) ∧
    (∀ r : FormatReport,
      (r.Unstyled → shownText (pretty r true) = pretty r false ∧
        shownText (pretty r true) = plain r) ∧
      TrimmedFrom (plain r) ("\n".intercalate
        (r.diagnostics.map (FormatReport.entry r.check false) ++ r.failures.map failureLine))) ∧
    ∀ l : ToolList, l.Unstyled → shownText (pretty l true) = pretty l false := by
  refine ⟨fun r => ⟨fun hr => ?_, trimmedFrom_stacked _⟩,
    fun r => ⟨fun hr => ?_, trimmedFrom_stacked _⟩, fun l hl => hl.coloured_pretty.shownText_eq⟩
  · exact ⟨hr.coloured_text.shownText_eq, hr.coloured_text.shownText_eq⟩
  · exact ⟨hr.coloured_text.shownText_eq, hr.coloured_text.shownText_eq⟩

theorem shownText_pretty_trailing_blanks :
    ∃ (r : LintReport) (f : FormatReport) (l : ToolList), r.Unstyled ∧ f.Unstyled ∧ l.Unstyled ∧
      pretty r true = "a.fish:3:5: \x1b[1;31merror\x1b[0m [] one\n  \nfailed:" ∧
      shownText (pretty r true) = pretty r false ∧ shownText (pretty r true) = plain r ∧
      pretty f true = "a.fish:3:5: \x1b[1;31merror\x1b[0m [] one" ∧
      shownText (pretty f true) = pretty f false ∧ shownText (pretty f true) = plain f ∧
      shownText (pretty l true) = pretty l false := by
  let d : Diagnostic :=
    { tool := "fish", rule := "", message := "one\n  ", severity := .error,
      location := { file := ⟨"a.fish"⟩, line := 3, column := some 5, endColumn := some 6 } }
  let r : LintReport := { filesChecked := 2, diagnostics := [d], failures := [" \t"] }
  let f : FormatReport := { check := true, filesChecked := 1, diagnostics := [d], failures := [] }
  let t : ToolEntry :=
    { name := "fish", category := "linter", available := false, version := none,
      executable := "fish", resolved := none, website := " " }
  let l : ToolList := { tools := [t] }
  have hd : ∀ d' ∈ [d], d'.Unstyled := by
    rw [List.forall_mem_singleton]
    exact ⟨by decide, by decide, by decide⟩
  have hr : r.Unstyled := ⟨hd, by decide⟩
  have hf : f.Unstyled := ⟨hd, nofun⟩
  have hl : l.Unstyled := by
    rw [ToolList.Unstyled, List.forall_mem_singleton]
    exact ⟨by decide, by decide, nofun, by decide, nofun, by decide⟩
  obtain ⟨hlint, hformat, htools⟩ := shownText_pretty
  exact ⟨r, f, l, hr, hf, hl, by decide, ((hlint r).1 hr).1, ((hlint r).1 hr).2, by decide,
    ((hformat f).1 hf).1, ((hformat f).1 hf).2, htools l hl⟩

end ScriptCheck
