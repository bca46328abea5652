import ScriptCheck.Proofs.Host.File
import ScriptCheck.Proofs.Host.Relative

/-! The file that a program name stands for. Whether there is one is asked in the working
directory, but the program may be started in any other. Both come to the same file if the name is
an absolute path, or if it is looked for and nothing stops the search early. A relative path has to
be started in the working directory, since it leads elsewhere from elsewhere. -/

namespace ScriptCheck

variable {h : Host} {path program x : Path} {dirs : List Path} {inv : Invocation} {dir : Place}

namespace Host

theorem programAt_of_isAbsolute (habsolute : path.isAbsolute = true) (from_ other : Place) :
    h.programAt from_ path = h.programAt other path := by
  unfold programAt Node.locate
  rw [habsolute]
  rfl

theorem expandHome_of_isAbsolute (habsolute : path.isAbsolute = true) :
    h.expandHome path = path := by
  obtain ⟨rest, hrest⟩ := Path.components_of_isAbsolute habsolute
  unfold expandHome
  rw [hrest]

theorem programAt_cases (h : Host) (path : Path) :
    (h.isRunnable path = true ∧ ((∃ found, h.programAt h.workDir path = .ok found) ∨
      h.programAt h.workDir path = .error .badFormat)) ∨
    (h.isRunnable path = false ∧ ∃ e, h.programAt h.workDir path = .error e ∧
      (h.locate path = .error e ∨ e = .permissionDenied ∨ e = .notFound)) := by
  unfold isRunnable node? locate programAt
  cases h.tree.locate h.workDir path true with
  | error e => exact .inr ⟨rfl, e, rfl, .inl rfl⟩
  | ok place =>
    simp only [bind, Except.bind]
    cases h.tree.at? place with
    | none => exact .inr ⟨rfl, _, rfl, .inr (.inr rfl)⟩
    | some node =>
      cases node with
      | program run mode =>
        by_cases hmode : mode &&& 0o111 = 0
        · exact .inr ⟨by simp [hmode, pure, Except.pure], _, if_pos hmode, .inr (.inl rfl)⟩
        · exact .inl ⟨by simp [hmode, pure, Except.pure], .inl ⟨_, if_neg hmode⟩⟩
      | file content mode =>
        by_cases hmode : mode &&& 0o111 = 0
        · exact .inr ⟨by simp [hmode, pure, Except.pure], _,
            congrArg Except.error (if_pos hmode), .inr (.inl rfl)⟩
        · exact .inl ⟨by simp [hmode, pure, Except.pure],
            .inr (congrArg Except.error (if_neg hmode))⟩
      | _ => exact .inr ⟨rfl, _, rfl, .inr (.inl rfl)⟩

theorem defect?_of_locate {place : Place} (hplace : h.locate path = .ok place) :
    path.defect? = none := by
  unfold locate Node.locate at hplace
  cases hdefect : path.defect? with
  | none => rfl
  | some e =>
    rw [hdefect] at hplace
    cases hplace

theorem exists_locate_of_isRunnable (hrunnable : h.isRunnable path = true) :
    ∃ place, h.locate path = .ok place := by
  unfold isRunnable node? at hrunnable
  cases hplace : h.locate path with
  | ok place => exact ⟨place, rfl⟩
  | error e =>
    rw [hplace] at hrunnable
    cases hrunnable

def passedOver (h : Host) (program : Path) : List Path :=
  (h.searchPath.map (·.join program)).takeWhile (!h.isRunnable ·)

/-- A program that means the same file wherever it is started: an absolute path, or a name whose
search passes over nothing but missing files and files that may not be run. -/
def IsFixed (h : Host) (program : Path) : Prop :=
  program.isAbsolute = true ∨ program.IsName ∧ ∀ path ∈ h.passedOver program,
    ∀ e, h.locate path = .error e → e = .notFound ∨ e = .notDirectory

theorem search_eq_programAt (hdirs : ∀ dir ∈ dirs, dir.isAbsolute = true)
    (hpassed : ∀ path ∈ (dirs.map (·.join program)).takeWhile (!h.isRunnable ·),
      ∀ e, h.locate path = .error e → e = .notFound ∨ e = .notDirectory)
    (hx : (dirs.map (·.join program)).find? h.isRunnable = some x) (from_ : Place)
    (denied : Bool) :
    h.search from_ program.text denied dirs = h.programAt h.workDir x := by
  induction dirs generalizing denied with
  | nil => cases hx
  | cons dir dirs ih =>
    have hdir := hdirs dir List.mem_cons_self
    have hhere : h.programAt from_ (dir.join ⟨program.text⟩) =
        h.programAt h.workDir (dir.join program) :=
      programAt_of_isAbsolute (Path.isAbsolute_join hdir program) from_ h.workDir
    -- The candidate is absolute, so it is the same file from here as from the working directory.
    unfold search
    rw [if_neg (Path.text_ne_empty_of_isAbsolute hdir), hhere]
    rw [List.map_cons] at hx hpassed
    rcases h.programAt_cases (dir.join program) with
      ⟨hrunnable, hstarted⟩ | ⟨hrunnable, e, hfailed, hreason⟩
    · rw [List.find?_cons_of_pos hrunnable, Option.some.injEq] at hx
      subst hx
      rcases hstarted with ⟨found, hok⟩ | hformat
      · rw [hok]
      · rw [hformat]
    · rw [List.find?_cons_of_neg (by simp [hrunnable])] at hx
      rw [List.takeWhile_cons_of_pos (by simp [hrunnable])] at hpassed
      have hrest (denied : Bool) := ih (fun dir hmem => hdirs dir (List.mem_cons_of_mem _ hmem))
        (fun path hmem => hpassed path (List.mem_cons_of_mem _ hmem)) hx denied
      have hskip : e = .permissionDenied ∨ e = .notFound ∨ e = .notDirectory := by
        rcases hreason with hlost | hdenied | hmissing
        · exact .inr (hpassed _ List.mem_cons_self e hlost)
        · exact .inl hdenied
        · exact .inr (.inl hmissing)
      rw [hfailed]
      rcases hskip with rfl | rfl | rfl <;> exact hrest _

theorem isRunnable_of_resolve? (hx : h.resolve? program = some x) : h.isRunnable x = true := by
  unfold resolve? at hx
  exact List.find?_some hx

theorem eq_of_resolve? (habsolute : program.isAbsolute = true)
    (hx : h.resolve? program = some x) : x = program := by
  have hjoin (dir : Path) : dir.join program = program := if_pos (.inl habsolute)
  have habs : h.absolute program = program := if_pos habsolute
  unfold resolve? at hx
  have hmem := List.mem_of_find?_eq_some hx
  simp only [habs, hjoin] at hmem
  split at hmem
  · exact List.mem_singleton.mp hmem
  · split at hmem
    · cases hmem
    · obtain ⟨_, -, hsame⟩ := List.mem_map.mp hmem
      exact hsame.symm

theorem find?_of_resolve? (hpath : ∀ dir ∈ h.searchPath, dir.isAbsolute = true)
    (hname : program.IsName) (hx : h.resolve? program = some x) :
    (h.searchPath.map (·.join program)).find? h.isRunnable = some x := by
  unfold resolve? at hx
  rw [if_neg (Nat.not_lt.mpr hname.length_components)] at hx
  unfold searchPath at hpath ⊢
  cases hvar : h.envVar? "PATH" with
  | none =>
    rw [hvar] at hx
    cases hx
  | some text =>
    rw [hvar] at hx hpath
    rw [Option.getD_some] at hpath ⊢
    rw [List.map_map]
    have hsame : (Text.split ':' text).map ((·.join program) ∘ Path.mk) =
        (Text.split ':' text).map fun dir => (h.expandHome ⟨dir⟩).join program := by
      refine List.map_congr_left fun dir hdir => ?_
      rw [expandHome_of_isAbsolute (hpath ⟨dir⟩ (List.mem_map_of_mem hdir))]
      rfl
    rw [hsame]
    exact hx

theorem nul_notMem_of_resolve? (hfixed : h.IsFixed program)
    (hpath : ∀ dir ∈ h.searchPath, dir.isAbsolute = true) (hx : h.resolve? program = some x) :
    '\x00' ∉ program.text.toList := by
  obtain ⟨place, hplace⟩ := exists_locate_of_isRunnable (isRunnable_of_resolve? hx)
  have hplain := Path.nul_notMem_of_sound (defect?_of_locate hplace)
  have hfront : ∃ front, x.text = front ++ program.text := by
    rcases hfixed with habsolute | ⟨hname, -⟩
    · exact ⟨"", by rw [eq_of_resolve? habsolute hx, String.empty_append]⟩
    · have hmem := List.mem_of_find?_eq_some (find?_of_resolve? hpath hname hx)
      obtain ⟨dir, -, rfl⟩ := List.mem_map.mp hmem
      exact dir.text_join program
  obtain ⟨front, hfront⟩ := hfront
  rw [hfront, String.toList_append, List.mem_append, not_or] at hplain
  exact hplain.2

theorem findProgram_of_isFixed (hpath : ∀ dir ∈ h.searchPath, dir.isAbsolute = true)
    (hfixed : h.IsFixed program) (hx : h.resolve? program = some x) (from_ : Place) :
    h.findProgram from_ program = h.programAt h.workDir x := by
  have hplain := nul_notMem_of_resolve? hfixed hpath hx
  unfold findProgram
  rw [if_neg (mt List.contains_iff_mem.mp hplain)]
  rcases hfixed with habsolute | ⟨hname, hpassed⟩
  · obtain ⟨rest, hrest⟩ := Path.exists_toList_of_isAbsolute habsolute
    have hslash : program.text.toList.contains '/' = true := by
      rw [hrest]
      exact List.contains_iff_mem.mpr List.mem_cons_self
    rw [if_neg (Path.text_ne_empty_of_isAbsolute habsolute), if_pos hslash,
      eq_of_resolve? habsolute hx]
    exact programAt_of_isAbsolute habsolute from_ h.workDir
  · rw [if_neg hname.1, if_neg (mt List.contains_iff_mem.mp hname.2)]
    exact search_eq_programAt hpath hpassed (find?_of_resolve? hpath hname hx) from_ false

theorem findProgram_of_isRelative (hstanding : h.Standing) (hprogram : program.IsRelative)
    (hx : h.resolve? program = some x) :
    h.findProgram h.workDir program = h.programAt h.workDir x := by
  obtain ⟨place, hplace⟩ := exists_locate_of_isRunnable (isRunnable_of_resolve? hx)
  have hfound : x = h.absolute program := by
    unfold resolve? at hx
    rw [if_pos hprogram.several] at hx
    exact List.mem_singleton.mp (List.mem_of_find?_eq_some hx)
  have hne := Path.text_ne_empty_of_sound hprogram.sound
  have hslash : '/' ∈ program.text.toList := by
    by_contra hslash
    have hname : program.IsName := ⟨hne, hslash⟩
    exact absurd hprogram.several (Nat.not_lt.mpr hname.length_components)
  unfold findProgram
  rw [if_neg (mt List.contains_iff_mem.mp (Path.nul_notMem_of_sound hprogram.sound)), if_neg hne,
    if_pos (List.contains_iff_mem.mpr hslash)]
  subst hfound
  exact (programAt_absolute hstanding hprogram (defect?_of_locate hplace)).symm

/-- A program means in a directory what it means in the working directory. -/
def Means (h : Host) (program : Path) (from_ : Place) : Prop :=
  h.IsFixed program ∨ program.IsRelative ∧ h.Standing ∧ from_ = h.workDir

theorem findProgram_eq_programAt (hpath : ∀ dir ∈ h.searchPath, dir.isAbsolute = true)
    (hx : h.resolve? program = some x) (hmeans : h.Means program dir) :
    h.findProgram dir program = h.programAt h.workDir x := by
  rcases hmeans with hfixed | ⟨hrelative, hstanding, rfl⟩
  · exact findProgram_of_isFixed hpath hfixed hx dir
  · exact findProgram_of_isRelative hstanding hrelative hx

end Host

def Invocation.call (inv : Invocation) (dir : Place) : Call where
  arguments := inv.arguments
  workDir := dir
  input := match inv.input with
    | some text => text.toUTF8
    | none => .empty

namespace Host

def startedAt (h : Host) (x : Path) (call : Call) : Except IoError (Place × Outcome) :=
  (h.programAt h.workDir x).map fun (place, program) => (place, program call)

theorem startedAt_ne_notFound (hrunnable : h.isRunnable x = true) (call : Call) :
    h.startedAt x call ≠ .error .notFound := by
  unfold startedAt
  rcases h.programAt_cases x with ⟨-, ⟨found, hok⟩ | hformat⟩ | ⟨hfalse, -⟩
  · rw [hok]
    nofun
  · rw [hformat]
    nofun
  · rw [hrunnable] at hfalse
    cases hfalse

theorem exists_startDir (hdir : h.isDir path = true) :
    ∃ dir, h.startDir (some path) = .ok dir := by
  unfold isDir at hdir
  cases hnode : h.node? path with
  | error e =>
    rw [hnode] at hdir
    cases hdir
  | ok node =>
    rw [hnode] at hdir
    obtain ⟨place, hplace, hat⟩ := node?_eq_ok_iff.mp hnode
    have hplain := Path.nul_notMem_of_sound (defect?_of_locate hplace)
    refine ⟨place, ?_⟩
    rw [startDir_some, if_neg (mt List.contains_iff_mem.mp hplain), hplace]
    cases node with
    | dir entries => simp only [Except.bind, hat, Option.map_some, Node.frame]
    | _ => cases hdir

theorem start_eq_startedAt (hpath : ∀ dir ∈ h.searchPath, dir.isAbsolute = true)
    (hx : h.resolve? inv.program = some x) (hdir : h.startDir inv.workDir = .ok dir)
    (hmeans : h.Means inv.program dir) (harguments : ∀ a ∈ inv.arguments, '\x00' ∉ a.toList) :
    h.start inv = h.startedAt x (inv.call dir) := by
  have hplain : inv.arguments.any (·.toList.contains '\x00') = false :=
    List.any_eq_false.mpr fun a ha => mt List.contains_iff_mem.mp (harguments a ha)
  unfold start startedAt
  rw [hplain, hdir]
  simp only [bind, Except.bind, findProgram_eq_programAt hpath hx hmeans]
  cases h.programAt h.workDir x <;> rfl

end Host
end ScriptCheck
