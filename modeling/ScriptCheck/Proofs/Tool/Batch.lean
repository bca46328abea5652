import ScriptCheck.Proofs.Host.Offering
import ScriptCheck.Proofs.Tool.Formatter
import ScriptCheck.Proofs.Tool.Linter

/-! Files treated one by one and in batches. A registry asks every tool of a category for every
file by itself, so that a file that fails leaves the results of the others as they are. A checker
that is given the files at once finds the same, as far as the first file that it cannot check. -/

namespace ScriptCheck

variable {operation : Operation} {root : Path} {t h : Host} {pair : Tool × Path}

namespace Registry

/-- A pair of a tool and a file does not tell alike machines apart, and does nothing to the machine
when it fails. -/
structure Separate (operation : Operation) (root : Path) (pair : Tool × Path) : Prop where
  uniform : Uniform (treatOne operation root pair.1 pair.2)
  harmless : ∀ t e, attempted operation root t pair = .error e →
    t.Alike (after operation root t pair)

/-- The results of pairs, each as the tool returns it for the file alone on the machine as it is
then. -/
structure OneByOne (operation : Operation) (root : Path) (pairs : List (Tool × Path)) (h : Host)
    (results : List ToolResult) : Prop where
  inTurn : results = resultsAlong (alone operation root) (after operation root) h pairs
  length_eq : results.length = pairs.length
  isolated : (∀ pair ∈ pairs, Separate operation root pair) → ∀ before pair later e,
    pairs = before ++ pair :: later →
    attempted operation root (before.foldl (after operation root) h) pair = .error e →
    ∃ early late, early.length = before.length ∧
      results = early ++ .failure pair.1.name (pair.2.text ++ ": " ++ e.message) :: late ∧
      resultsAlong (alone operation root) (after operation root) h (before ++ later) =
        early ++ late

theorem resultsAlong_of_alike {pairs : List (Tool × Path)}
    (hpairs : ∀ pair ∈ pairs, Separate operation root pair) (ht : t.Alike h) :
    resultsAlong (alone operation root) (after operation root) h pairs =
      resultsAlong (alone operation root) (after operation root) t pairs := by
  have hsame := resultsAlong_alike (fun pair hpair => (hpairs pair hpair).uniform) ht
  simp only [run_treatOne] at hsame
  exact hsame

theorem oneByOne_resultsAlong (operation : Operation) (root : Path)
    (pairs : List (Tool × Path)) (h : Host) : OneByOne operation root pairs h
      (resultsAlong (alone operation root) (after operation root) h pairs) where
  inTurn := rfl
  length_eq := length_resultsAlong _ _ h pairs
  isolated := by
    rintro hseparate before pair later e rfl hfails
    have hpair := (hseparate pair (by simp)).harmless _ e hfails
    have hlater : ∀ other ∈ later, Separate operation root other :=
      fun other hother => hseparate other (by simp [hother])
    refine ⟨_, _, length_resultsAlong _ _ h before, ?_, resultsAlong_append _ _ h before later⟩
    rw [resultsAlong_append, resultsAlong, resultsAlong_of_alike hlater hpair]
    unfold alone
    rw [hfails]
    rfl

theorem separate_of_ends {made : Host → Except ToolError ToolResult} (step : Host → Host)
    (hmade : ∀ t h, t.Alike h →
      Ends (treat operation root pair.1 pair.2).run h (made t) (step t))
    (hkept : ∀ t e, made t = .error e → step t = t) : Separate operation root pair where
  uniform := uniform_of_ends fun t h ht => ends_treatOne (hmade t h ht)
  harmless := by
    intro t e hfails
    obtain ⟨g, hrun, -⟩ := hmade t t (.refl t)
    obtain ⟨k, hone, hk⟩ := ends_treatOne (hmade t t (.refl t))
    have hmadet : made t = .error e := by
      unfold attempted at hfails
      rw [← treat_eq, hrun] at hfails
      exact hfails
    rw [run_treatOne] at hone
    rw [hkept t e hmadet] at hk
    rw [show after operation root t pair = k from congrArg Prod.snd hone]
    exact hk

theorem separate_ofToolchain {chain : Toolchain} {category : ToolCategory} {files : List Path}
    (hpair : pair ∈ (ofToolchain chain).pairs category files) : Separate operation root pair := by
  obtain ⟨tool, htool, hfile⟩ := List.mem_flatMap.mp hpair
  obtain ⟨file, -, rfl⟩ := List.mem_map.mp hfile
  have hbuiltin : tool = Linter.tool chain.fish chain.timeoutMs ∨
      tool = Formatter.tool chain.fishIndent chain.timeoutMs := by
    simpa [ofToolchain] using (List.mem_filter.mp htool).1
  rcases hbuiltin with rfl | rfl
  · cases operation with
    | run =>
      exact separate_of_ends id (fun t h ht => Linter.ends_checkFiles_singleton ht)
        fun _ _ _ => rfl
    | fix => exact separate_of_ends id (fun t h ht => ends_throw _ ht) fun _ _ _ => rfl
  · cases operation with
    | run =>
      exact separate_of_ends id
        (fun t h ht => Formatter.ends_inTurn (Formatter.ends_checkFile ht)) fun _ _ _ => rfl
    | fix =>
      refine separate_of_ends _ (fun t h ht => Formatter.ends_inTurn (Formatter.ends_fixFile ht)) ?_
      intro t e hfails
      unfold Formatter.rewritten
      cases hchange : Formatter.change? chain.fishIndent chain.timeoutMs root t file with
      | error e => rfl
      | ok change =>
        rw [hchange] at hfails
        cases hfails

end Registry

namespace Linter

variable {chain : Toolchain} {files : List Path}

/-- What a check of files at once comes to, given what each of them comes to alone and the results
file by file. -/
structure BatchAgrees (files : List Path) (alone : Path → Except ToolError ToolResult)
    (shares : List ToolResult) (batch : Except ToolError ToolResult) : Prop where
  succeeds : (∃ result, batch = .ok result) ↔ ∀ share ∈ shares, share.succeeded = true
  collects : ∀ result, batch = .ok result →
    result = .success Listing.toolName (collectDiagnostics shares)
  firstFailure : ∀ e, batch = .error e → ∃ before file later, files = before ++ file :: later ∧
    (∀ sound ∈ before, ∃ result, alone sound = .ok result) ∧ alone file = .error e

def verdict (chain : Toolchain) (root : Path) (h : Host) (file : Path) :
    Except ToolError ToolResult :=
  ((invocation chain.fish chain.timeoutMs root file).answer h).bind (resultOf · none)

def summary (diagnostics : List Diagnostic) : Except ToolError ToolResult :=
  .ok (.success Listing.toolName diagnostics)

theorem ends_checkFiles (root : Path) (files : List Path) (ht : t.Alike h) :
    Ends (checkFiles chain.fish chain.timeoutMs files root).run h
      ((files.mapM (verdict chain root t)).bind fun results =>
        summary (results.flatMap ToolResult.diagnostics)) t := by
  have hone (file : Path) (t h : Host) (ht : t.Alike h) :
      Ends (checkFile chain.fish chain.timeoutMs root file).run h (verdict chain root t file) t :=
    ends_checkFile ht
  exact (ends_attempt_mapM hone files ht).attempt_bind fun _ _ hg => ends_pure _ hg

theorem batchAgrees (root : Path) (files : List Path) (h : Host) :
    BatchAgrees files (fun file => (verdict chain root h file).bind (summary ·.diagnostics))
      (files.map (shareOf chain.fish chain.timeoutMs root h))
      ((files.mapM (verdict chain root h)).bind fun results =>
        summary (results.flatMap ToolResult.diagnostics)) := by
  have hshare (file : Path) : shareOf chain.fish chain.timeoutMs root h file =
      Registry.resultFor (tool chain.fish chain.timeoutMs) file
        ((verdict chain root h file).bind (summary ·.diagnostics)) := rfl
  rcases mapM_ok_or_error (verdict chain root h) files with
    ⟨results, hresults, hmade⟩ | ⟨before, file, later, e, rfl, hbefore, hfile, hall⟩
  · have hshares : files.map (shareOf chain.fish chain.timeoutMs root h) =
        results.map fun result => .success Listing.toolName result.diagnostics := by
      rw [← List.forall₂_eq_eq_eq, List.forall₂_map_left_iff, List.forall₂_map_right_iff]
      refine hmade.imp fun file result hfile => ?_
      rw [hshare, hfile]
      rfl
    have hcollected : collectDiagnostics (files.map (shareOf chain.fish chain.timeoutMs root h)) =
        results.flatMap ToolResult.diagnostics := by
      rw [hshares, collectDiagnostics, List.flatMap_map]
      rfl
    rw [hresults]
    refine ⟨iff_of_true ⟨_, rfl⟩ ?_, ?_, nofun⟩
    · rw [hshares, List.forall_mem_map]
      exact fun _ _ => rfl
    · rintro _ ⟨⟩
      rw [hcollected]
  · have hfails : ¬ (shareOf chain.fish chain.timeoutMs root h file).succeeded = true := by
      rw [hshare, hfile]
      exact Bool.false_ne_true
    rw [hall]
    refine ⟨iff_of_false nofun fun hsound => hfails (hsound _ ?_), nofun, ?_⟩
    · exact List.mem_map_of_mem (by simp)
    · rintro _ ⟨⟩
      refine ⟨before, file, later, rfl, fun sound hsound => ?_, ?_⟩
      · obtain ⟨result, hresult⟩ := hbefore sound hsound
        exact ⟨_, by rw [hresult]; rfl⟩
      · rw [hfile]
        rfl

end Linter

namespace Registry

/-- Every tool is asked for every file by itself, and the checker's own way of taking many files
comes to the same. -/
theorem oneByOne_perFile (r : Registry) (chain : Toolchain) (operation : Operation)
    (category : ToolCategory) (root : Path) (files : List Path) (h : Host) :
    OneByOne operation root (r.pairs category files) h
        ((r.perFile operation category root files).run h).1 ∧
      (∀ pair ∈ (ofToolchain chain).pairs category files, Separate operation root pair) ∧
      Linter.BatchAgrees files
        (fun file => (((Linter.tool chain.fish chain.timeoutMs).run [file] root).run.run h).1)
        (((ofToolchain chain).perFile .run .linter root files).run h).1
        (((Linter.tool chain.fish chain.timeoutMs).run files root).run.run h).1 := by
  refine ⟨?_, fun pair hpair => separate_ofToolchain hpair, ?_⟩
  · rw [run_perFile]
    exact oneByOne_resultsAlong operation root (r.pairs category files) h
  · have halone (file : Path) :
        (((Linter.tool chain.fish chain.timeoutMs).run [file] root).run.run h).1 =
          (Linter.verdict chain root h file).bind (Linter.summary ·.diagnostics) :=
      (Linter.ends_checkFiles_singleton (.refl h)).run_fst
    have hbatch : (((Linter.tool chain.fish chain.timeoutMs).run files root).run.run h).1 =
        (files.mapM (Linter.verdict chain root h)).bind fun results =>
          Linter.summary (results.flatMap ToolResult.diagnostics) :=
      (Linter.ends_checkFiles root files (.refl h)).run_fst
    have hshares := (Linter.ends_perFile chain root files (.refl h)).run_fst
    rw [funext halone, hshares, hbatch]
    exact Linter.batchAgrees root files h

def picky : Program := fun call => {
  readsInput := true, delayMs := 0, stdout := .empty, stderr := .empty
  exit := if call.arguments = ["-n", "bad.fish"] then .signal 11 else .code 0 }

/-- The first of two files cannot be checked, and the second is as it is without it. The checker
cannot fix a file, and the formatter fixes the one that is there. -/
theorem oneByOne_perFile_picky :
    let h : Host := { Host.offering [] with
      tree := .dir [
        ("bin", .dir [("fish", .program picky 0o755), ("fish_indent", .program .tidying 0o755)]),
        ("a.fish", .file "echo  hi\n".toUTF8 0o644)] }
    let chain : Toolchain := ⟨⟨"fish"⟩, ⟨"fish_indent"⟩, none⟩
    let e : ToolError := .unexpectedOutput "fish" none ""
    let results files := (((ofToolchain chain).perFile .run .linter ⟨"."⟩ files).run h).1
    let fixes category files := (((ofToolchain chain).perFile .fix category ⟨"."⟩ files).run h).1
    let fixed : Diagnostic :=
      ⟨"fish_indent", "formatting", "Reformatted file", .info, ⟨⟨"a.fish"⟩, 1, none, none⟩⟩
    results [⟨"bad.fish"⟩, ⟨"good.fish"⟩] =
        .failure "fish" ("bad.fish" ++ ": " ++ e.message) :: results [⟨"good.fish"⟩] ∧
      (((Linter.tool chain.fish none).run [⟨"bad.fish"⟩, ⟨"good.fish"⟩] ⟨"."⟩).run.run h).1 =
        .error e ∧
      (∃ result, (((Linter.tool chain.fish none).run [⟨"good.fish"⟩] ⟨"."⟩).run.run h).1 =
        .ok result) ∧
      fixes .linter [⟨"a.fish"⟩] =
        [.failure "fish" ("a.fish: " ++ (ToolError.unsupported "fish").message)] ∧
      fixes .formatter [⟨"b.fish"⟩, ⟨"a.fish"⟩] =
        [.failure "fish_indent" ("b.fish: " ++ (ToolError.io .notFound).message),
          .success "fish_indent" [fixed]] := by
  intro h chain e results fixes fixed
  let bad : Tool × Path := (Linter.tool chain.fish none, ⟨"bad.fish"⟩)
  let good : Tool × Path := (Linter.tool chain.fish none, ⟨"good.fish"⟩)
  obtain ⟨hboth, hseparate, hagrees⟩ := oneByOne_perFile (ofToolchain chain) chain .run .linter
    ⟨"."⟩ [⟨"bad.fish"⟩, ⟨"good.fish"⟩] h
  obtain ⟨hone, -, hagreesOne⟩ := oneByOne_perFile (ofToolchain chain) chain .run .linter
    ⟨"."⟩ [⟨"good.fish"⟩] h
  have hfails : attempted .run ⟨"."⟩ h bad = .error e := by decide +kernel
  have hpasses : (alone .run ⟨"."⟩ h good).succeeded = true := by decide +kernel
  obtain ⟨early, late, hearly, hresults, hrest⟩ :=
    hboth.isolated hseparate [] bad [good] e rfl hfails
  obtain rfl := List.length_eq_zero_iff.mp hearly
  have hlate : late = results [⟨"good.fish"⟩] := (hone.inTurn.trans hrest).symm
  rw [hlate] at hresults
  obtain ⟨hlinter, -, -⟩ := oneByOne_perFile (ofToolchain chain) chain .fix .linter ⟨"."⟩
    [⟨"a.fish"⟩] h
  obtain ⟨hformatter, -, -⟩ := oneByOne_perFile (ofToolchain chain) chain .fix .formatter ⟨"."⟩
    [⟨"b.fish"⟩, ⟨"a.fish"⟩] h
  refine ⟨hresults, ?_, hagreesOne.succeeds.mpr ?_, hlinter.inTurn.trans (by decide +kernel),
    hformatter.inTurn.trans (by decide +kernel)⟩
  · cases hbatch : (((Linter.tool chain.fish none).run [⟨"bad.fish"⟩, ⟨"good.fish"⟩]
        ⟨"."⟩).run.run h).1 with
    | ok result =>
      have hshares := hagrees.succeeds.mp ⟨result, hbatch⟩
      rw [hresults] at hshares
      exact absurd (hshares _ List.mem_cons_self) Bool.false_ne_true
    | error e' =>
      obtain ⟨before, file, later, hfiles, hbefore, hfile⟩ := hagrees.firstFailure e' hbatch
      cases before with
      | nil =>
        cases hfiles
        exact hfile.symm.trans hfails
      | cons first before =>
        obtain ⟨rfl, -⟩ := List.cons.inj hfiles
        obtain ⟨result, hresult⟩ := hbefore _ List.mem_cons_self
        cases hresult.symm.trans hfails
  · rw [hone.inTurn]
    intro share hshare
    rw [List.mem_singleton.mp hshare]
    exact hpasses

end Registry
end ScriptCheck
