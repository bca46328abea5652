import ScriptCheck.Proofs.Host.Action
import ScriptCheck.Tool.Registry

/-! Results file by file. What a tool returns for a file, or why it returned nothing, is one
result for that file. -/

namespace ScriptCheck.Registry

variable {r : Registry} {tool : Tool} {operation : Operation} {category : ToolCategory}
  {root : Path} {t u h : Host}

def resultFor (tool : Tool) (file : Path) : Except ToolError ToolResult → ToolResult
  | .ok result => result
  | .error e => .failure tool.name (file.text ++ ": " ++ e.message)

theorem ends_treatOne {file : Path} {made : Except ToolError ToolResult}
    (hmade : Ends (treat operation root tool file).run h made u) :
    Ends (treatOne operation root tool file) h (resultFor tool file made) u := by
  refine hmade.bind fun g hg => ?_
  cases made with
  | ok result => exact ends_pure result hg
  | error e => exact (ends_note .warn _ hg).bind fun k hk => ends_pure _ hk

theorem ends_perFile (hr : r.tools.filter (·.category = category) = [tool])
    {result : Host → Path → ToolResult} {step : Host → Path → Host}
    (hone : ∀ file t h, t.Alike h →
      Ends (treatOne operation root tool file) h (result t file) (step t file))
    (files : List Path) (ht : t.Alike h) :
    Ends (r.perFile operation category root files) h (resultsAlong result step t files)
      (files.foldl step t) := by
  have hall : Ends ([tool].mapM fun tool => files.mapM (treatOne operation root tool)) h
      [resultsAlong result step t files] (files.foldl step t) := by
    rw [mapM_singleton]
    exact (ends_mapM hone files ht).bind fun g hg => ends_pure _ hg
  unfold perFile
  rw [hr]
  refine hall.bind fun g hg => ?_
  rw [List.flatten_singleton]
  exact ends_pure _ hg

theorem ends_perFile_same (hr : r.tools.filter (·.category = category) = [tool])
    {result : Host → Path → ToolResult}
    (hone : ∀ file t h, t.Alike h → Ends (treatOne operation root tool file) h (result t file) t)
    (files : List Path) (ht : t.Alike h) :
    Ends (r.perFile operation category root files) h (files.map (result t)) t := by
  have hall := ends_perFile hr hone files ht
  rwa [resultsAlong_same, List.foldl_fixed] at hall

def pairs (r : Registry) (category : ToolCategory) (files : List Path) : List (Tool × Path) :=
  (r.tools.filter (·.category = category)).flatMap fun tool => files.map fun file => (tool, file)

def asked (operation : Operation) (root : Path) (pair : Tool × Path) : Attempt ToolResult :=
  match operation with
  | .run => pair.1.run [pair.2] root
  | .fix => if pair.1.canFix then pair.1.fix [pair.2] root else throw (.unsupported pair.1.name)

theorem treat_eq (operation : Operation) (root : Path) (pair : Tool × Path) :
    treat operation root pair.1 pair.2 = asked operation root pair := by
  cases operation <;> rfl

def attempted (operation : Operation) (root : Path) (h : Host) (pair : Tool × Path) :
    Except ToolError ToolResult :=
  ((asked operation root pair).run.run h).1

def alone (operation : Operation) (root : Path) (h : Host) (pair : Tool × Path) : ToolResult :=
  resultFor pair.1 pair.2 (attempted operation root h pair)

def after (operation : Operation) (root : Path) (h : Host) (pair : Tool × Path) : Host :=
  let (made, g) := (asked operation root pair).run.run h
  match made with
  | .ok _ => g
  | .error _ => { g with journal := g.journal ++ [⟨.warn, "gill_tools::registry"⟩] }

theorem run_treatOne (operation : Operation) (root : Path) (h : Host) (tool : Tool)
    (file : Path) : (treatOne operation root tool file).run h =
      (alone operation root h (tool, file), after operation root h (tool, file)) := by
  unfold treatOne alone after attempted
  rw [treat_eq operation root (tool, file), StateT.run_bind]
  generalize (asked operation root (tool, file)).run.run h = x
  obtain ⟨made, g⟩ := x
  cases made <;> rfl

theorem flatten_resultsAlong {α β γ : Type} (result : Host → α × β → γ)
    (step : Host → α × β → Host) (bs : List β) (as : List α) (h : Host) :
    (resultsAlong (fun h a => resultsAlong result step h (bs.map (a, ·)))
        (fun h a => (bs.map (a, ·)).foldl step h) h as).flatten =
      resultsAlong result step h (as.flatMap fun a => bs.map (a, ·)) := by
  induction as generalizing h with
  | nil => rfl
  | cons a as ih =>
    rw [List.flatMap_cons, resultsAlong_append, ← ih]
    rfl

theorem run_perFile (r : Registry) (operation : Operation) (category : ToolCategory)
    (root : Path) (files : List Path) (h : Host) :
    ((r.perFile operation category root files).run h).1 =
      resultsAlong (alone operation root) (after operation root) h (r.pairs category files) := by
  have hfiles (tool : Tool) (h : Host) : (files.mapM (treatOne operation root tool)).run h =
      (resultsAlong (alone operation root) (after operation root) h (files.map (tool, ·)),
        (files.map (tool, ·)).foldl (after operation root) h) := by
    rw [run_mapM, resultsAlong_map, List.foldl_map]
    simp only [run_treatOne]
  unfold perFile pairs
  rw [← flatten_resultsAlong, StateT.run_bind, run_mapM]
  simp only [hfiles]
  rfl

end ScriptCheck.Registry
