import Mathlib.Data.List.ReduceOption
import ScriptCheck.Proofs.Listing.Header
import ScriptCheck.Proofs.Text.Lines

/-! The diagnostics of a listing, line by line. Each line that is read as a header with a
number gives one, and no other line gives any. -/

namespace ScriptCheck.Listing

open Text

variable {relabel : Option Path} {line : List Char} {below : List (List Char)} {h : Header}
  {n : Nat}

/-- What the diagnostic of a header says. Its columns come from the lines below. -/
structure Header.Gives (h : Header) (n : Nat) (relabel : Option Path) (d : Diagnostic) : Prop where
  tool : d.tool = toolName
  rule : d.rule = ruleName
  severity : d.severity = .error
  message : d.message = .ofList (trim h.message)
  file : d.location.file = relabel.getD ⟨.ofList h.file⟩
  line : d.location.line = max 1 n

inductive Found (relabel : Option Path) (line : List Char) : Option Diagnostic → Prop
  | error {h : Header} {n : Nat} {d : Diagnostic} (longest : h.IsLongest line)
    (number : Denotes h.digits n) (gives : h.Gives n relabel d) : Found relabel line (some d)
  | nothing (hnone : ∀ (h : Header) (n : Nat), h.IsLongest line → ¬ Denotes h.digits n) :
    Found relabel line none

def Header.diagnostic (h : Header) (n : Nat) (relabel : Option Path)
    (below : List (List Char)) : Diagnostic :=
  let location : Location := { file := relabel.getD ⟨.ofList h.file⟩, line := max n 1 }
  { tool := toolName
    rule := ruleName
    message := .ofList (trim h.message)
    severity := .error
    location := match span? below with
      | some (column, endColumn) => location.withSpan column endColumn
      | none => location }

theorem diagnostic?_eq_some (hlongest : h.IsLongest line) (hn : Denotes h.digits n) :
    diagnostic? relabel line below = some (h.diagnostic n relabel below) := by
  unfold diagnostic?
  rw [header?_eq_some_iff.mpr hlongest, Option.bind_eq_bind, Option.bind_some,
    (asciiNumber?_eq_some_iff hlongest.1.digits).mpr hn]
  rfl

theorem diagnostic?_eq_none
    (hnone : ∀ (h : Header) (n : Nat), h.IsLongest line → ¬ Denotes h.digits n) :
    diagnostic? relabel line below = none := by
  unfold diagnostic?
  cases hh : header? line with
  | none => rfl
  | some h =>
    have hlongest := header?_eq_some_iff.mp hh
    have hnumber : asciiNumber? h.digits = none := by
      refine Option.eq_none_iff_forall_ne_some.mpr fun n hn => ?_
      exact hnone h n hlongest ((asciiNumber?_eq_some_iff hlongest.1.digits).mp hn)
    rw [Option.bind_eq_bind, Option.bind_some, hnumber]
    rfl

theorem Header.gives_diagnostic (h : Header) (n : Nat) (relabel : Option Path)
    (below : List (List Char)) : h.Gives n relabel (h.diagnostic n relabel below) := by
  unfold diagnostic
  cases span? below with
  | none => exact ⟨rfl, rfl, rfl, rfl, rfl, Nat.max_comm _ _⟩
  | some span => exact ⟨rfl, rfl, rfl, rfl, rfl, Nat.max_comm _ _⟩

theorem found_diagnostic? (relabel : Option Path) (line : List Char) (below : List (List Char)) :
    Found relabel line (diagnostic? relabel line below) := by
  by_cases hnumbered : ∃ (h : Header) (n : Nat), h.IsLongest line ∧ Denotes h.digits n
  · obtain ⟨h, n, hlongest, hn⟩ := hnumbered
    rw [diagnostic?_eq_some hlongest hn]
    exact .error hlongest hn (h.gives_diagnostic n relabel below)
  · have hnone : ∀ (h : Header) (n : Nat), h.IsLongest line → ¬ Denotes h.digits n :=
      fun h n hlongest hn => hnumbered ⟨h, n, hlongest, hn⟩
    rw [diagnostic?_eq_none hnone]
    exact .nothing hnone

theorem found_diagnosticsOfLines (relabel : Option Path) (lines rest : List (List Char)) :
    ∃ found, List.Forall₂ (Found relabel) lines found ∧
      diagnosticsOfLines relabel (lines ++ rest) =
        found.reduceOption ++ diagnosticsOfLines relabel rest := by
  induction lines with
  | nil => exact ⟨[], .nil, rfl⟩
  | cons line below ih =>
    obtain ⟨found, hfound, hdiagnostics⟩ := ih
    refine ⟨diagnostic? relabel line (below ++ rest) :: found,
      .cons (found_diagnostic? relabel line (below ++ rest)) hfound, ?_⟩
    rw [List.cons_append, diagnosticsOfLines, hdiagnostics]
    cases diagnostic? relabel line (below ++ rest) with
    | none => rfl
    | some d => rfl

theorem severity_of_mem_diagnosticsOfLines {lines : List (List Char)} {d : Diagnostic}
    (hd : d ∈ diagnosticsOfLines relabel lines) : d.severity = .error := by
  induction lines with
  | nil => cases hd
  | cons line below ih =>
    rcases List.mem_append.mp hd with hline | hbelow
    · have hfound := found_diagnostic? relabel line below
      rw [Option.mem_toList.mp hline] at hfound
      cases hfound with
      | error _ _ hgives => exact hgives.severity
    · exact ih hbelow

def headerText (file : String) (n : Nat) (message : String) : String :=
  file ++ " (line " ++ toString n ++ "): " ++ message

theorem toList_headerText (file : String) (n : Nat) (message : String) :
    (headerText file n message).toList =
      file.toList ++ (opening ++ ((toString n).toList ++ (closing ++ message.toList))) := by
  unfold headerText opening closing
  simp only [String.toList_append, List.append_assoc]

theorem toList_toString_ne_nil (n : Nat) : (toString n).toList ≠ [] := by
  have hdigits : (toString n).toList = Nat.toDigits 10 n := Nat.toList_repr
  rw [hdigits]
  exact Nat.toDigits_ne_nil

theorem reads_headerText {file message : String} {n : Nat} (hfile : file ≠ "")
    (hmessage : message ≠ "") (hn : Denotes (toString n).toList n) :
    Header.Reads ⟨file.toList, (toString n).toList, message.toList⟩
      (headerText file n message).toList where
  spelled := toList_headerText file n message
  file := by simpa using hfile
  digits := toList_toString_ne_nil n
  isDigit := fun c hc => isDigit_of_ascii (hn.ascii c hc)
  message := by simpa using hmessage

end ScriptCheck.Listing
