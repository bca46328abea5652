import Mathlib.Logic.Function.Iterate
import ScriptCheck.Proofs.Command.Run
import ScriptCheck.Proofs.Host.Output
import ScriptCheck.Proofs.Settings.Unset

/-! Preparing a project. A settings file that is there is left alone. One that is not there becomes
the only new file, and since it sets nothing, the project keeps the settings that it had. Afterwards
there is nothing left to do. All this takes for granted that making the directory of the settings
brings no other file within reach of a path, as a way up out of a missing directory can do. -/

namespace ScriptCheck

variable {h g k : Host} {root : Path} {place : Place} {text : String} {R : Host → Host → Prop}

namespace Host

def Told (h g : Host) : Prop := ∃ output errors clockMs journal,
  g = { h with console := { h.console with output, errors }, clockMs, journal }

theorem Alike.keepsDisk : KeepsDisk Alike :=
  ⟨Alike.tree_eq, fun hg => hg.sameLayout.workDir, Alike.setTree⟩

namespace Told

theorem refl (h : Host) : h.Told h := ⟨_, _, _, _, rfl⟩

theorem trans (hg : h.Told g) (hk : g.Told k) : h.Told k := by
  obtain ⟨_, _, _, _, rfl⟩ := hg
  obtain ⟨output, errors, clockMs, journal, rfl⟩ := hk
  exact ⟨output, errors, clockMs, journal, rfl⟩

theorem of_alike (hg : h.Alike g) : h.Told g := by
  obtain ⟨errors, clockMs, journal, rfl⟩ := hg
  exact ⟨_, errors, clockMs, journal, rfl⟩

theorem tree_eq (hg : h.Told g) : g.tree = h.tree := by
  obtain ⟨_, _, _, _, rfl⟩ := hg
  rfl

theorem sink_eq (hg : h.Told g) : g.console.sink = h.console.sink := by
  obtain ⟨_, _, _, _, rfl⟩ := hg
  rfl

theorem hasPath_eq (hg : h.Told g) (path : Path) : g.hasPath path = h.hasPath path := by
  obtain ⟨_, _, _, _, rfl⟩ := hg
  rfl

theorem readText_eq (hg : h.Told g) (path : Path) : g.readText path = h.readText path := by
  obtain ⟨_, _, _, _, rfl⟩ := hg
  rfl

theorem load_eq (hg : h.Told g) (root : Path) :
    ((Settings.load root).run g).1 = ((Settings.load root).run h).1 := by
  obtain ⟨_, _, _, _, rfl⟩ := hg
  exact Settings.load_eq_of_setBy rfl fun _ _ _ => rfl

end Told
end Host

namespace Command

theorem run_makeSettingsFile (root : Path) (h : Host) : (makeSettingsFile root).run h =
    if h.hasPath (Settings.projectFile root) then (.ok false, h)
    else match h.makeDirAll (Settings.projectDir root) with
      | (.error e, g) => (.error e, g)
      | (.ok (), g) =>
        match g.writeText (Settings.projectFile root) settingsTemplate with
        | .error e => (.error e, g)
        | .ok k => (.ok true, k) := by
  unfold makeSettingsFile Settings.projectFile
  rw [run_get_bind]
  split
  · rfl
  rcases h.makeDirAll (Settings.projectDir root) with ⟨e | ⟨⟩, g⟩
  · rfl
  · dsimp only
    cases g.writeText _ settingsTemplate <;> rfl

inductive Makes (root : Path) (h : Host) : Except IoError Bool × Host → Prop
  | spared (hthere : h.hasPath (Settings.projectFile root) = true) : Makes root h (.ok false, h)
  | noDir {e : IoError} {g : Host} (hmissing : h.hasPath (Settings.projectFile root) = false)
      (hdir : h.makeDirAll (Settings.projectDir root) = (.error e, g)) : Makes root h (.error e, g)
  | noFile {e : IoError} {g : Host} (hmissing : h.hasPath (Settings.projectFile root) = false)
      (hdir : h.makeDirAll (Settings.projectDir root) = (.ok (), g))
      (hfile : g.writeText (Settings.projectFile root) settingsTemplate = .error e) :
      Makes root h (.error e, g)
  | made {g k : Host} (hmissing : h.hasPath (Settings.projectFile root) = false)
      (hdir : h.makeDirAll (Settings.projectDir root) = (.ok (), g))
      (hfile : g.writeText (Settings.projectFile root) settingsTemplate = .ok k) :
      Makes root h (.ok true, k)

theorem makes_makeSettingsFile (root : Path) (h : Host) :
    Makes root h ((makeSettingsFile root).run h) := by
  rw [run_makeSettingsFile]
  split
  next hthere => exact .spared hthere
  next hmissing =>
    rw [Bool.not_eq_true] at hmissing
    split
    next e g hdir => exact .noDir hmissing hdir
    next g hdir =>
      split
      next e hfile => exact .noFile hmissing hdir hfile
      next k hfile => exact .made hmissing hdir hfile

theorem keepsDisk_makeSettingsFile (hR : Host.KeepsDisk R) (hg : R h g)
    (root : Path) : ((makeSettingsFile root).run g).1 = ((makeSettingsFile root).run h).1 ∧
      R ((makeSettingsFile root).run h).2 ((makeSettingsFile root).run g).2 := by
  rw [run_makeSettingsFile, run_makeSettingsFile, hR.hasPath_eq hg]
  split
  · exact ⟨rfl, hg⟩
  have hdir := hR.makeDirAll hg (Settings.projectDir root)
  generalize h.makeDirAll (Settings.projectDir root) = made,
    g.makeDirAll (Settings.projectDir root) = other at hdir ⊢
  obtain ⟨e | ⟨⟩, k⟩ := made <;> obtain ⟨_, m⟩ := other <;> obtain ⟨rfl, hdir⟩ := hdir
  · exact ⟨rfl, hdir⟩
  · have hfile := hR.writeText hdir (Settings.projectFile root) settingsTemplate
    dsimp only at hfile ⊢
    generalize k.writeText _ settingsTemplate = made, m.writeText _ settingsTemplate = other
      at hfile ⊢
    rcases hfile with hfile | e
    · exact ⟨rfl, hfile⟩
    · exact ⟨rfl, hdir⟩

theorem uniform_announce (text : String) : Uniform (announce text) := by
  rintro t _ ⟨errors, clockMs, journal, rfl⟩
  unfold announce
  rw [run_get_bind]
  unfold Ends
  rw [run_get_bind]
  cases t.console.sink <;> exact ⟨_, rfl, _, _, _, rfl⟩

theorem uniform_setUpProject (root : Option Path) : Uniform (setUpProject root) := by
  have hmake : Uniform (makeSettingsFile (rootOf root)) := by
    intro t h ht
    obtain ⟨hmade, hleft⟩ := keepsDisk_makeSettingsFile Host.Alike.keepsDisk ht (rootOf root)
    exact ⟨((makeSettingsFile (rootOf root)).run h).2, Prod.ext hmade rfl, hleft⟩
  refine hmake.bind fun made => ?_
  cases made with
  | ok isNew => cases isNew <;> exact uniform_announce _
  | error e => exact uniform_of_ends fun t h ht =>
      (ends_complain _ ht).bind fun g hg => ends_pure 1 hg

theorem told_announce (text : String) (h : Host) : h.Told ((announce text).run h).2 ∧
    (h.console.sink = .opened → ((announce text).run h).1 = 0) := by
  unfold announce
  rw [run_get_bind]
  cases h.console.sink with
  | opened => exact ⟨⟨_, _, _, _, rfl⟩, fun _ => rfl⟩
  | closed => exact ⟨⟨_, _, _, _, rfl⟩, nofun⟩
  | full => exact ⟨⟨_, _, _, _, rfl⟩, nofun⟩

def Inits (root : Path) (h : Host) (ended : Nat × Host) : Prop :=
  ∃ made k, Makes root h (made, k) ∧ k.Told ended.2 ∧
    ∀ isNew, made = .ok isNew → k.console.sink = .opened → ended.1 = 0

theorem inits_setUpProject (root : Option Path) (h : Host) :
    Inits (rootOf root) h ((setUpProject root).run h) := by
  unfold setUpProject
  rw [StateT.run_bind]
  have hmakes := makes_makeSettingsFile (rootOf root) h
  generalize (makeSettingsFile (rootOf root)).run h = ended at hmakes ⊢
  obtain ⟨made, k⟩ := ended
  cases made with
  | ok isNew =>
    cases isNew with
    | true =>
      obtain ⟨htold, hcode⟩ := told_announce "Created .gill/config.toml" k
      exact ⟨_, k, hmakes, htold, fun _ _ => hcode⟩
    | false =>
      obtain ⟨htold, hcode⟩ := told_announce "Already initialized." k
      exact ⟨_, k, hmakes, htold, fun _ _ => hcode⟩
  | error e => exact ⟨_, k, hmakes, ⟨_, _, _, _, rfl⟩, nofun⟩

theorem inits_run {words : List String} {line : CommandLine}
    (hparse : Arguments.parse words = .ok line) (hinit : line.command = .init) (h : Host) :
    Inits (rootOf line.root) h ((run words).run h) := by
  obtain ⟨g, hrun, hg⟩ : Ends (run words) h ((setUpProject line.root).run h).1
      ((setUpProject line.root).run h).2 := ends_run hparse fun g hg => by
    rw [hinit]
    exact uniform_setUpProject line.root h g hg
  obtain ⟨made, k, hmakes, htold, hcode⟩ := inits_setUpProject line.root h
  rw [hrun]
  exact ⟨made, k, hmakes, htold.trans (.of_alike hg), hcode⟩

def CanWrite (h : Host) (root : Path) : Prop :=
  (h.makeDirAll (Settings.projectDir root)).1.isOk = true ∧
    ((h.makeDirAll (Settings.projectDir root)).2.writeText (Settings.projectFile root)
      settingsTemplate).isOk = true

instance (h : Host) (root : Path) : Decidable (CanWrite h root) :=
  inferInstanceAs (Decidable (_ ∧ _))

/-- The machine with a new file at a place that a path leads to, and with directories that were
missing on the way to another path. Nothing else has changed. -/
structure Adds (h k : Host) (dir path : Path) (text : String) (place : Place) : Prop where
  leads : k.locate path = .ok place
  missing : h.tree.at? place = none
  file : k.tree.at? place = some (.file text.toUTF8 0o644)
  elsewhere : ∀ other ≠ place, (k.tree.at? other).map Node.bare = (h.tree.at? other).map Node.bare ∨
    h.tree.at? other = none ∧ (k.tree.at? other).map Node.bare = some (.dir []) ∧
      ∃ way, dir.OnWay way ∧ k.locate way = .ok other

theorem Adds.told {dir path : Path} (hadds : Adds h k dir path text place) (hg : k.Told g) :
    Adds h g dir path text place := by
  obtain ⟨_, _, _, _, rfl⟩ := hg
  exact ⟨hadds.leads, hadds.missing, hadds.file, hadds.elsewhere⟩

theorem isPlain_projectDir (root : Path) : (Settings.projectDir root).IsPlain := by
  have hword : Path.IsWord ".gill" := ⟨by decide, by decide⟩
  exact Path.isPlain_join root hword (by decide)

theorem madeDirs_projectDir {done : Except IoError Unit}
    (hdir : h.makeDirAll (Settings.projectDir root) = (done, g)) :
    h.MadeDirs g (Settings.projectDir root) := by
  have hmade : h.MadeDirs (h.makeDirAll (Settings.projectDir root)).2 (Settings.projectDir root) :=
    Host.madeDirs_makeDirs h _ (isPlain_projectDir root)
  rw [hdir] at hmade
  exact hmade

theorem exists_wrote_projectFile
    (hfile : g.writeText (Settings.projectFile root) settingsTemplate = .ok k) :
    ∃ place, g.locate (Settings.projectFile root) = .ok place ∧
      g.Wrote k place settingsTemplate := by
  have hword : Path.IsWord "config.toml" := ⟨by decide, by decide⟩
  exact Host.exists_wrote (Path.names_join_ne_nil _ hword) hfile

theorem Makes.host {made : Except IoError Bool} (hmakes : Makes root h (made, k)) :
    k = h.setTree k.tree := by
  cases hmakes with
  | spared => rfl
  | noDir _ hdir => exact (madeDirs_projectDir hdir).host
  | noFile _ hdir => exact (madeDirs_projectDir hdir).host
  | made _ hdir hfile =>
    obtain ⟨_, -, hwrote⟩ := exists_wrote_projectFile hfile
    rw [hwrote.host, (madeDirs_projectDir hdir).host]
    rfl

theorem Makes.ready {made : Except IoError Bool} (hmakes : Makes root h (made, k))
    (hready : h.hasPath (Settings.projectFile root) = true ∨ CanWrite h root) :
    (∃ isNew, made = .ok isNew) ∧ k.hasPath (Settings.projectFile root) = true := by
  cases hmakes with
  | spared hthere => exact ⟨⟨_, rfl⟩, hthere⟩
  | noDir hmissing hdir =>
    rcases hready with hthere | ⟨hdone, -⟩
    · cases hmissing.symm.trans hthere
    · rw [hdir] at hdone
      cases hdone
  | noFile hmissing hdir hfile =>
    rcases hready with hthere | ⟨-, hwritten⟩
    · cases hmissing.symm.trans hthere
    · rw [hdir, hfile] at hwritten
      cases hwritten
  | made _ _ hfile =>
    obtain ⟨place, hplace, hwrote⟩ := exists_wrote_projectFile hfile
    obtain ⟨mode, hafter, -⟩ := hwrote.after
    have hnode := Host.node?_eq_ok_iff.mpr ⟨place, hwrote.locate_eq_ok_iff.mpr hplace, hafter⟩
    refine ⟨⟨_, rfl⟩, ?_⟩
    unfold Host.hasPath
    rw [hnode]
    rfl

theorem Makes.readText (hmakes : Makes root h (.ok true, k)) :
    k.readText (Settings.projectFile root) = .ok settingsTemplate := by
  cases hmakes with
  | made _ _ hfile =>
    obtain ⟨place, hplace, hwrote⟩ := exists_wrote_projectFile hfile
    obtain ⟨mode, hafter, -⟩ := hwrote.after
    exact Host.readText_of_readBytes
      (Host.readBytes_of_file (hwrote.locate_eq_ok_iff.mpr hplace) hafter)

theorem Makes.leaf_load_told (hmakes : Makes root h (.ok true, k)) (hg : k.Told g)
    (l : Settings.Leaf) : ((Settings.load root).run g).1.leaf l =
      (Settings.globalDir? g).bind fun dir =>
        (Settings.inFile? g (dir.join Settings.fileName)).bind (·.leaf l) := by
  have hproject : Settings.setBy g (Settings.projectFile root) l = none := by
    have hread := (hg.readText_eq _).trans hmakes.readText
    rw [Settings.setBy_of_readText hread, Settings.ofToml?_template, Option.bind_some,
      Settings.leaf_default]
  rw [Settings.leaf_load]
  exact (congrArg₂ Option.or hproject rfl).trans Option.none_or

theorem Makes.adds (hmakes : Makes root h (.ok true, k))
    (hreveals : ¬ h.Reveals (Settings.projectDir root) (Settings.projectFile root)) :
    ∃ place, Adds h k (Settings.projectDir root) (Settings.projectFile root) settingsTemplate
      place := by
  cases hmakes with
  | @made g _ hmissing hdir hfile =>
  obtain ⟨place, hplace, hwrote⟩ := exists_wrote_projectFile hfile
  have hmade := madeDirs_projectDir hdir
  have hnone : g.tree.at? place = none := by
    by_contra hsome
    obtain ⟨node, hnode⟩ := Option.ne_none_iff_exists'.mp hsome
    have hisFile := hwrote.before
    rw [hnode, Option.all_some] at hisFile
    refine hreveals ⟨Host.isFile_of_not_hasPath hmissing, ?_⟩
    rw [hdir]
    exact Host.isFile_eq_true_iff.mpr ⟨place, node, hplace, hnode, hisFile⟩
  obtain ⟨mode, hafter, hmode⟩ := hwrote.after
  refine ⟨place, hwrote.locate_eq_ok_iff.mpr hplace, ?_, hmode hnone ▸ hafter, ?_⟩
  · rcases hmade.places place with hsame | ⟨hbefore, -⟩
    · rw [hnone] at hsame
      exact Option.map_eq_none_iff.mp hsame.symm
    · exact hbefore
  · intro other hother
    rw [hwrote.elsewhere other hother]
    rcases hmade.places other with hsame | ⟨hbefore, hthere, way, hway, hlocate⟩
    · exact .inl hsame
    · exact .inr ⟨hbefore, hthere, way, hway, hwrote.locate_eq_ok_iff.mpr hlocate⟩

theorem Makes.load_eq (hmakes : Makes root h (.ok true, k))
    (hreveals : ∀ path ∈ Settings.files h root, ¬ h.Reveals (Settings.projectDir root) path) :
    ((Settings.load root).run k).1 = ((Settings.load root).run h).1 := by
  obtain ⟨place, hadds⟩ := hmakes.adds (hreveals _ (Settings.projectFile_mem_files h root))
  have hdir : Settings.globalDir? k = Settings.globalDir? h := by
    rw [hmakes.host]
    rfl
  refine Settings.load_eq_of_setBy hdir fun path hpath l => ?_
  cases hmakes with
  | @made g _ _ hmade hfile =>
    obtain ⟨there, hthere, hwrote⟩ := exists_wrote_projectFile hfile
    cases hadds.leads.symm.trans (hwrote.locate_eq_ok_iff.mpr hthere)
    refine Settings.setBy_of_wrote (madeDirs_projectDir hmade) hwrote Settings.ofToml?_template
      hadds.missing (fun hfile => ?_) l
    have hhidden := hreveals path hpath
    unfold Host.Reveals at hhidden
    rw [hmade] at hhidden
    exact Bool.eq_false_iff.mpr fun hnew => hhidden ⟨hfile, hnew⟩

namespace Inits

variable {ended : Nat × Host} (hinits : Inits root h ended)
include hinits

theorem told_of_hasPath (hthere : h.hasPath (Settings.projectFile root) = true) :
    h.Told ended.2 := by
  obtain ⟨made, k, hmakes, htold, -⟩ := hinits
  cases hmakes with
  | spared => exact htold
  | noDir hmissing | noFile hmissing | made hmissing => cases hmissing.symm.trans hthere

theorem ready (hready : h.hasPath (Settings.projectFile root) = true ∨ CanWrite h root) :
    ended.2.hasPath (Settings.projectFile root) = true ∧
      ended.2.console.sink = h.console.sink ∧ (h.console.sink = .opened → ended.1 = 0) := by
  obtain ⟨made, k, hmakes, htold, hcode⟩ := hinits
  obtain ⟨⟨isNew, hnew⟩, hthere⟩ := hmakes.ready hready
  have hsink : k.console.sink = h.console.sink := by
    rw [hmakes.host]
    rfl
  exact ⟨(htold.hasPath_eq _).trans hthere, htold.sink_eq.trans hsink, fun hopen =>
    hcode isNew hnew (hsink.trans hopen)⟩

theorem makes_of_canWrite (hmissing : h.hasPath (Settings.projectFile root) = false)
    (hwrite : CanWrite h root) : ∃ k, Makes root h (.ok true, k) ∧ k.Told ended.2 := by
  obtain ⟨made, k, hmakes, htold, -⟩ := hinits
  obtain ⟨⟨isNew, rfl⟩, -⟩ := hmakes.ready (.inr hwrite)
  cases hmakes with
  | spared hthere => cases hmissing.symm.trans hthere
  | made _ hdir hfile => exact ⟨k, .made hmissing hdir hfile, htold⟩

end Inits

def afterRuns (init : Action Nat) (n : Nat) (h : Host) : Host := (fun k => (init.run k).2)^[n] h

theorem afterRuns_succ (init : Action Nat) (n : Nat) (h : Host) :
    afterRuns init (n + 1) h = (init.run (afterRuns init n h)).2 :=
  Function.iterate_succ_apply' ..

theorem told_afterRuns {init : Action Nat} (hinit : ∀ h, Inits root h (init.run h))
    (hthere : h.hasPath (Settings.projectFile root) = true) (n : Nat) :
    h.Told (afterRuns init n h) := by
  -- What carries the induction is that telling leaves the file where it is.
  induction n with
  | zero => exact .refl h
  | succ n ih =>
    rw [afterRuns_succ]
    exact ih.trans ((hinit _).told_of_hasPath ((ih.hasPath_eq _).trans hthere))

theorem told_afterRuns_succ {init : Action Nat} (hinit : ∀ h, Inits root h (init.run h))
    (hready : h.hasPath (Settings.projectFile root) = true ∨ CanWrite h root) (n : Nat) :
    (init.run h).2.Told (afterRuns init (n + 1) h) :=
  told_afterRuns hinit ((hinit h).ready hready).1 n

/-- How an action prepares a project on a machine. -/
structure Prepares (root : Path) (init : Action Nat) (h : Host) : Prop where
  spared : h.hasPath (Settings.projectFile root) = true → (init.run h).2.tree = h.tree
  created : h.hasPath (Settings.projectFile root) = false → CanWrite h root →
    ¬ h.Reveals (Settings.projectDir root) (Settings.projectFile root) →
    ∃ place, Adds h (init.run h).2 (Settings.projectDir root) (Settings.projectFile root)
      settingsTemplate place
  settings : h.hasPath (Settings.projectFile root) = false → CanWrite h root →
    (∀ path ∈ Settings.files h root, ¬ h.Reveals (Settings.projectDir root) path) → ∀ n,
    ((Settings.load root).run (afterRuns init (n + 1) h)).1 = ((Settings.load root).run h).1
  again : h.hasPath (Settings.projectFile root) = true ∨ CanWrite h root → ∀ n,
    (afterRuns init (n + 1) h).tree = (init.run h).2.tree ∧
      (h.console.sink = .opened → (init.run (afterRuns init n h)).1 = 0)

theorem prepares_of_inits {init : Action Nat} (hinit : ∀ h, Inits root h (init.run h)) (h : Host) :
    Prepares root init h where
  spared hthere := ((hinit h).told_of_hasPath hthere).tree_eq
  created hmissing hwrite hreveals := by
    obtain ⟨k, hmakes, htold⟩ := (hinit h).makes_of_canWrite hmissing hwrite
    obtain ⟨place, hadds⟩ := hmakes.adds hreveals
    exact ⟨place, hadds.told htold⟩
  settings hmissing hwrite hreveals n := by
    obtain ⟨k, hmakes, htold⟩ := (hinit h).makes_of_canWrite hmissing hwrite
    calc ((Settings.load root).run (afterRuns init (n + 1) h)).1
        = ((Settings.load root).run (init.run h).2).1 :=
          (told_afterRuns_succ hinit (.inr hwrite) n).load_eq root
      _ = ((Settings.load root).run k).1 := htold.load_eq root
      _ = ((Settings.load root).run h).1 := hmakes.load_eq hreveals
  again hready n := by
    refine ⟨(told_afterRuns_succ hinit hready n).tree_eq, fun hopen => ?_⟩
    obtain ⟨hthere, hsink, hcode⟩ := (hinit h).ready hready
    cases n with
    | zero => exact hcode hopen
    | succ n =>
      have htold := told_afterRuns_succ hinit hready n
      obtain ⟨-, -, hcode⟩ := (hinit (afterRuns init (n + 1) h)).ready
        (.inl ((htold.hasPath_eq _).trans hthere))
      exact hcode (htold.sink_eq.trans (hsink.trans hopen))

/-- A project is prepared by every command line that says so. What this must not bring within
reach can only come from a way up, so that nothing does where all ways go down. -/
theorem prepares_run {words : List String} {line : CommandLine}
    (hparse : Arguments.parse words = .ok line) (hinit : line.command = .init) (h : Host) :
    Prepares (rootOf line.root) (run words) h ∧ ∀ path, h.GoesDown path →
      ¬ h.Reveals (Settings.projectDir (rootOf line.root)) path :=
  ⟨prepares_of_inits (inits_run hparse hinit) h, fun _ hdown =>
    Host.not_reveals_of_goesDown (isPlain_projectDir _) hdown⟩

theorem prepares_run_account :
    let h := Settings.machine "[lint]\non_save = false\n" ""
    let words := ["init", "--root", "/work/app"]
    let root : Path := ⟨"/work/app"⟩
    (∃ line, Arguments.parse words = .ok line ∧ line.command = .init ∧ rootOf line.root = root) ∧
      h.hasPath (Settings.projectFile root) = false ∧ CanWrite h root ∧
      (∀ path ∈ Settings.files h root, h.GoesDown path) ∧
      (∃ place, Adds h ((run words).run h).2 (Settings.projectDir root)
        (Settings.projectFile root) settingsTemplate place) ∧
      ∀ n, ((Settings.load root).run (afterRuns (run words) (n + 1) h)).1.lint.onSave = some false ∧
        ((run words).run (afterRuns (run words) n h)).1 = 0 := by
  intro h words root
  have hparse : Arguments.parse words =
      .ok ⟨false, false, false, false, some root, .init⟩ := rfl
  have hmissing : h.hasPath (Settings.projectFile root) = false := by decide +kernel
  have hwrite : CanWrite h root := by decide +kernel
  have hdown : ∀ path ∈ Settings.files h root, h.GoesDown path := by decide +kernel
  have hbefore : ((Settings.load root).run h).1.lint.onSave = some false := by decide +kernel
  obtain ⟨hprepares, hhidden⟩ : Prepares root (run words) h ∧ ∀ path, h.GoesDown path →
      ¬ h.Reveals (Settings.projectDir root) path := prepares_run hparse rfl h
  have hreveals : ∀ path ∈ Settings.files h root, ¬ h.Reveals (Settings.projectDir root) path :=
    fun path hpath => hhidden path (hdown path hpath)
  refine ⟨⟨_, hparse, rfl, rfl⟩, hmissing, hwrite, hdown, ?_, fun n => ⟨?_, ?_⟩⟩
  · exact hprepares.created hmissing hwrite (hreveals _ (Settings.projectFile_mem_files h root))
  · exact (congrArg (·.lint.onSave) (hprepares.settings hmissing hwrite hreveals n)).trans hbefore
  · exact (hprepares.again (.inr hwrite) n).2 rfl

def entangled : Host := { Host.offering [] with
  tree := .dir [
    ("home", .dir [(".config", .link ⟨"../.gill/../conf"⟩)]),
    ("conf", .dir [
      ("gill", .dir [("config.toml", .file "[lint]\non_save = false\n".toUTF8 0o644)])])]
  environment := [("HOME", "/home")] }

/-- Where a path goes up out of a directory that was missing, preparing a project brings the
settings of the account into force, or replaces those of another project. -/
theorem not_prepared_upward :
    (let h := entangled
      let k := ((run ["init"]).run h).2
      let root : Path := ⟨"."⟩
      h.hasPath (Settings.projectFile root) = false ∧ CanWrite h root ∧
        ((Settings.load root).run k).1 ≠ ((Settings.load root).run h).1) ∧
      let h := Settings.machine "" "[lint]\non_save = false\n"
      let k := ((run ["init", "--root", "/project/a/.."]).run h).2
      let root : Path := ⟨"/project/a/.."⟩
      let other : Path := ⟨"/project/.gill/config.toml"⟩
      h.hasPath (Settings.projectFile root) = false ∧ CanWrite h root ∧
        h.readText other = .ok "[lint]\non_save = false\n" ∧
        k.readText other = .ok settingsTemplate := by
  constructor
  · intro h k root
    have hparse : Arguments.parse ["init"] = .ok ⟨false, false, false, false, none, .init⟩ := rfl
    have hmissing : h.hasPath (Settings.projectFile root) = false := by decide +kernel
    have hwrite : CanWrite h root := by decide +kernel
    have hbefore : ((Settings.load root).run h).1.leaf .onSave = none := by decide +kernel
    have hdir : Settings.globalDir? k = some ⟨"/home/.config/gill"⟩ := by decide +kernel
    have haccount : Settings.inFile? k (Path.join ⟨"/home/.config/gill"⟩ Settings.fileName) =
        some { lint := { onSave := some false } } := by decide +kernel
    obtain ⟨made, (hmakes : Makes root h _), (htold : made.Told k)⟩ :=
      (inits_run hparse rfl h).makes_of_canWrite hmissing hwrite
    clear_value h k
    refine ⟨hmissing, hwrite, fun hsame => ?_⟩
    rw [← hsame, hmakes.leaf_load_told htold, hdir, Option.bind_some, haccount] at hbefore
    cases hbefore
  · intro h k root other
    have hparse : Arguments.parse ["init", "--root", "/project/a/.."] =
        .ok ⟨false, false, false, false, some root, .init⟩ := rfl
    have hmissing : h.hasPath (Settings.projectFile root) = false := by decide +kernel
    have hwrite : CanWrite h root := by decide +kernel
    have hsame : k.locate other = k.locate (Settings.projectFile root) := by decide +kernel
    have hbefore : h.readText other = .ok "[lint]\non_save = false\n" := by decide +kernel
    obtain ⟨made, (hmakes : Makes root h _), (htold : made.Told k)⟩ :=
      (inits_run hparse rfl h).makes_of_canWrite hmissing hwrite
    clear_value h k
    refine ⟨hmissing, hwrite, hbefore, ?_⟩
    rw [Host.readText_eq_of_locate hsame, htold.readText_eq]
    exact hmakes.readText

end Command
end ScriptCheck
