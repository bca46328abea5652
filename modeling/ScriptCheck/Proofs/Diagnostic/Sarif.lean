import Mathlib.Data.List.Forall2
import Mathlib.Data.List.Induction
import Mathlib.Data.List.Sort
import ScriptCheck.Diagnostic.Sarif
import ScriptCheck.Proofs.Text.Order

/-! The runs of a SARIF report. However the tools take turns in what they say, there is one run
for each of them, in the order of their names, and each run keeps the order of its own tool. -/

namespace ScriptCheck.Sarif

open Text

variable {ds es : List Diagnostic} {d : Diagnostic} {runs : List Run} {run : Run} {tool t : String}
  {result : Result} {R : String → List Result}

def place? (result : Json) : Option Json :=
  match result.get? "locations" with
  | some (.arr [location]) => location.get? "physicalLocation"
  | _ => none

def region? (result : Json) : Option Json := (place? result).bind (·.get? "region")

/-- A result has all that its diagnostic says, and a column only where this has one. -/
structure Tells (d : Diagnostic) (result : Json) : Prop where
  rule : result.get? "ruleId" = some (.str d.rule)
  level : result.get? "level" = some (.str (match d.severity with
    | .error => "error"
    | .warning => "warning"
    | .info | .hint => "note"))
  message : (result.get? "message").bind (·.get? "text") = some (.str d.message)
  file : ((place? result).bind (·.get? "artifactLocation")).bind (·.get? "uri") =
    some (.str d.location.file.text)
  line : (region? result).bind (·.get? "startLine") = some (.nat d.location.line)
  column : (region? result).bind (·.get? "startColumn") = d.location.column.map Json.nat
  endColumn : (region? result).bind (·.get? "endColumn") = d.location.endColumn.map Json.nat

theorem tells_toJson (d : Diagnostic) : Tells d (Result.of d).toJson := by
  obtain ⟨tool, rule, message, severity, file, line, column, endColumn⟩ := d
  cases severity <;> cases column <;> cases endColumn <;>
    exact ⟨rfl, rfl, rfl, rfl, rfl, rfl, rfl⟩

/-- A run is shown under the name of its tool, with its results. -/
structure Presents (run : Run) (item : Json) : Prop where
  tool : ((item.get? "tool").bind (·.get? "driver")).bind (·.get? "name") = some (.str run.tool)
  results : item.get? "results" = some (.arr (run.results.map Result.toJson))

theorem exists_runs_toJson (report : Report) :
    ∃ items, report.toJson.get? "runs" = some (.arr items) ∧
      List.Forall₂ Presents report.runs items := by
  refine ⟨report.runs.map Run.toJson, rfl, ?_⟩
  rw [List.forall₂_map_right_iff, List.forall₂_same]
  exact fun _ _ => ⟨rfl, rfl⟩

theorem tools_addResult (tool : String) (result : Result) (runs : List Run) :
    (addResult tool result runs).map Run.tool = insertText tool (runs.map Run.tool) := by
  induction runs with
  | nil => rfl
  | cons run rest ih =>
    unfold addResult
    rw [List.map_cons, insertText]
    split
    · rfl
    · split
      · rfl
      · rw [List.map_cons, ih]

theorem results_of_mem_addResult (hsorted : (runs.map Run.tool).Pairwise (· < ·))
    (hresults : ∀ run ∈ runs, run.results = R run.tool)
    (hnew : tool ∉ runs.map Run.tool → R tool = []) (hrun : run ∈ addResult tool result runs) :
    run.results = if run.tool = tool then R tool ++ [result] else R run.tool := by
  induction runs with
  | nil =>
    rw [List.mem_singleton.mp hrun, if_pos rfl, hnew List.not_mem_nil]
    rfl
  | cons first rest ih =>
    obtain ⟨hfirst, hrest⟩ := List.forall_mem_cons.mp hresults
    have hold (hmem : run ∈ first :: rest) (hne : run.tool ≠ tool) :
        run.results = if run.tool = tool then R tool ++ [result] else R run.tool := by
      rw [if_neg hne]
      exact hresults run hmem
    unfold addResult at hrun
    split at hrun
    · rename_i hlt
      have habsent := notMem_of_lt hsorted hlt
      rcases List.mem_cons.mp hrun with rfl | hmem
      · rw [if_pos rfl, hnew habsent]
        rfl
      · exact hold hmem fun heq => habsent (heq ▸ List.mem_map_of_mem hmem)
    · split at hrun
      · rename_i heq
        rcases List.mem_cons.mp hrun with rfl | hmem
        · rw [if_pos heq.symm, hfirst, heq]
        · have hlt := List.rel_of_pairwise_cons hsorted (List.mem_map_of_mem hmem)
          refine hold (List.mem_cons_of_mem _ hmem) fun hsame => ?_
          rw [hsame, heq] at hlt
          exact String.lt_irrefl _ hlt
      · rename_i hne
        rcases List.mem_cons.mp hrun with rfl | hmem
        · exact hold List.mem_cons_self fun heq => hne heq.symm
        · refine ih (List.pairwise_cons.mp hsorted).2 hrest (fun habsent => hnew ?_) hmem
          rw [List.map_cons, List.mem_cons, not_or]
          exact ⟨hne, habsent⟩

theorem length_results_addResult (tool : String) (result : Result) (runs : List Run) :
    ((addResult tool result runs).flatMap Run.results).length =
      (runs.flatMap Run.results).length + 1 := by
  induction runs with
  | nil => rfl
  | cons run rest ih =>
    unfold addResult
    split
    · rw [List.flatMap_cons, List.length_append, List.length_singleton, Nat.add_comm]
    · split
      · simp only [List.flatMap_cons, List.length_append, List.length_singleton]
        omega
      · simp only [List.flatMap_cons, List.length_append] at ih ⊢
        omega

def said (ds : List Diagnostic) (tool : String) : List Diagnostic :=
  ds.filter fun d => d.tool = tool

theorem said_concat (ds : List Diagnostic) (d : Diagnostic) (tool : String) :
    said (ds ++ [d]) tool = said ds tool ++ if tool = d.tool then [d] else [] := by
  by_cases htool : d.tool = tool
  · simp [said, htool]
  · simp [said, htool, Ne.symm htool]

theorem said_ne_nil_iff : said ds tool ≠ [] ↔ ∃ d ∈ ds, d.tool = tool := by
  simp [said, List.filter_eq_nil_iff]

structure Sorts (ds : List Diagnostic) (runs : List Run) : Prop where
  sorted : (runs.map Run.tool).Pairwise (· < ·)
  named : ∀ tool, tool ∈ runs.map Run.tool ↔ said ds tool ≠ []
  results : ∀ run ∈ runs, run.results = (said ds run.tool).map Result.of
  counted : (runs.flatMap Run.results).length = ds.length

theorem Sorts.add (hsorts : Sorts ds runs) (d : Diagnostic) :
    Sorts (ds ++ [d]) (addResult d.tool (Result.of d) runs) where
  sorted := by
    rw [tools_addResult]
    exact pairwise_insertText hsorts.sorted
  named := by
    intro tool
    rw [tools_addResult, mem_insertText, hsorts.named, said_concat]
    by_cases htool : tool = d.tool <;> simp [htool]
  results := by
    intro run hrun
    have hnew (habsent : d.tool ∉ runs.map Run.tool) : (said ds d.tool).map Result.of = [] := by
      rw [hsorts.named, not_not] at habsent
      rw [habsent]
      rfl
    rw [results_of_mem_addResult (R := fun tool => (said ds tool).map Result.of) hsorts.sorted
      hsorts.results hnew hrun, said_concat, List.map_append]
    by_cases htool : run.tool = d.tool <;> simp [htool]
  counted := by
    rw [length_results_addResult, hsorts.counted, List.length_append]
    rfl

theorem sorts_of (ds : List Diagnostic) : Sorts ds (Report.of ds).runs := by
  induction ds using List.reverseRecOn with
  | nil =>
    exact ⟨.nil, fun tool => by simp [Report.of, said], nofun, rfl⟩
  | append_singleton ds d ih =>
    have hstep := ih.add d
    unfold Report.of at hstep ⊢
    rwa [List.foldl_append]

theorem Sorts.eq_map (hsorts : Sorts ds runs) :
    runs = (runs.map Run.tool).map fun tool => ⟨tool, (said ds tool).map Result.of⟩ := by
  rw [List.map_map]
  refine (List.map_id runs).symm.trans (List.map_congr_left fun run hrun => ?_)
  obtain ⟨tool, results⟩ := run
  exact congrArg (Run.mk tool) (hsorts.results _ hrun)

theorem Sorts.eq_of_said (hruns : Sorts ds runs) {others : List Run} (hothers : Sorts es others)
    (hsaid : ∀ tool, said ds tool = said es tool) : runs = others := by
  have hnames : runs.map Run.tool = others.map Run.tool := by
    refine List.Pairwise.eq_of_mem_iff hruns.sorted hothers.sorted fun tool => ?_
    rw [hruns.named, hothers.named, hsaid]
  rw [hruns.eq_map, hothers.eq_map, hnames]
  simp only [hsaid]

/-- The runs of a report as they stand to the diagnostics. As the names grow in the order of their
bytes, no tool has a second run. -/
structure Groups (ds : List Diagnostic) (runs : List Run) : Prop where
  ordered : runs.Pairwise fun a b => bytes a.tool < bytes b.tool
  named : ∀ tool, (∃ run ∈ runs, run.tool = tool) ↔ ∃ d ∈ ds, d.tool = tool
  told : ∀ run ∈ runs, List.Forall₂ Tells (ds.filter fun d => d.tool = run.tool)
    (run.results.map Result.toJson)
  filled : ∀ run ∈ runs, run.results ≠ []
  counted : (runs.flatMap Run.results).length = ds.length

theorem Sorts.groups (hsorts : Sorts ds runs) : Groups ds runs where
  ordered := (List.pairwise_map.mp hsorts.sorted).imp bytes_lt_of_lt
  named := by
    intro tool
    rw [← said_ne_nil_iff, ← hsorts.named, List.mem_map]
  told := by
    intro run hrun
    rw [hsorts.results run hrun, List.map_map, List.forall₂_map_right_iff]
    refine List.forall₂_same.mpr ?_
    exact fun d _ => tells_toJson d
  filled := by
    intro run hrun hempty
    have hsaid := (hsorts.named run.tool).mp (List.mem_map_of_mem hrun)
    rw [hsorts.results run hrun, List.map_eq_nil_iff] at hempty
    exact hsaid hempty
  counted := hsorts.counted

/-- A report has a run for each tool, which its JSON shows, and is the same for all lists in which
each tool says the same in the same order. -/
theorem groups_of :
    (∀ ds : List Diagnostic, Groups ds (Report.of ds).runs ∧
      ∃ items, (Report.of ds).toJson.get? "runs" = some (.arr items) ∧
        List.Forall₂ Presents (Report.of ds).runs items) ∧
    ∀ ds es : List Diagnostic,
      (∀ tool, (ds.filter fun d => d.tool = tool) = es.filter fun d => d.tool = tool) →
        Report.of ds = Report.of es := by
  constructor
  · exact fun ds => ⟨(sorts_of ds).groups, exists_runs_toJson _⟩
  · intro ds es hsaid
    exact congrArg Report.mk ((sorts_of ds).eq_of_said (sorts_of es) hsaid)

/-- Two tools that take turns, against one after the other. -/
theorem groups_of_turns :
    let said (tool : String) (severity : Severity) (line : Nat) : Diagnostic :=
      ⟨tool, "r", "m", severity, ⟨⟨"a.fish"⟩, line, some line, none⟩⟩
    let turns := [said "é" .error 1, said "fish" .warning 1, said "é" .hint 2,
      said "fish" .error 1, said "fish" .info 0]
    Groups turns (Report.of turns).runs ∧
      ((Report.of turns).runs.map fun run =>
        (run.tool, run.results.map fun result => (result.line, result.level))) =
          [("fish", [(1, "warning"), (1, "error"), (0, "note")]),
            ("é", [(1, "error"), (2, "note")])] ∧
      Report.of turns = Report.of [said "fish" .warning 1, said "fish" .error 1, said "é" .error 1,
        said "fish" .info 0, said "é" .hint 2] := by
  intro said turns
  refine ⟨(groups_of.1 turns).1, by decide +kernel, groups_of.2 _ _ fun tool => ?_⟩
  by_cases hfish : "fish" = tool
  · subst hfish
    rfl
  · by_cases hother : "é" = tool
    · subst hother
      rfl
    · simp [turns, said, hfish, hother]

end ScriptCheck.Sarif
