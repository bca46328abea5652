import ScriptCheck.Proofs.Command.Format
import ScriptCheck.Proofs.Command.Init

/-! Commands whose output nobody reads. Reports and formatted texts go the same way to a standard
output that is gone as to one that is read, so the files, the error output and the exit code are
those of a command that is heard. Only preparing a project insists on being heard. -/

namespace ScriptCheck

variable {executable root file : Path} {timeoutMs : Option Nat}

namespace Settings

theorem oblivious_addFile (settings : Settings) (path : Path) :
    Oblivious (addFile settings path) := by
  refine agree_get_bind fun h g hg => ?_
  have hfile : ofFile? g path = ofFile? h path := by
    unfold ofFile?
    rw [hg.readText_eq]
  rw [hfile]
  cases ofFile? h path with
  | error e => exact (oblivious_note .warn _).bind fun _ => oblivious_pure settings
  | ok layer? =>
    cases layer? with
    | none => exact oblivious_pure settings
    | some layer => exact (oblivious_note .debug _).bind fun _ => oblivious_pure _

theorem oblivious_load (root : Path) : Oblivious (load root) := by
  refine agree_get_bind fun h g hg => ?_
  have hfiles : files g root = files h root := by
    obtain ⟨-, _, _, rfl⟩ := hg
    rfl
  rw [hfiles]
  exact oblivious_foldlM oblivious_addFile _ {}

end Settings

theorem Linter.oblivious_checkFiles (files : List Path) (root : Path) :
    Oblivious (checkFiles executable timeoutMs files root).run := by
  have hone (file : Path) : Oblivious (checkFile executable timeoutMs root file).run :=
    (oblivious_exec _).attempt_bind fun _ => oblivious_liftExcept _
  exact (oblivious_attempt_mapM hone files).attempt_bind fun _ => oblivious_pure (Except.ok _)

namespace Formatter

theorem oblivious_formatText (source : String) :
    Oblivious (formatText executable timeoutMs source).run :=
  (oblivious_exec _).attempt_bind fun _ => oblivious_liftExcept _

theorem oblivious_readFile : Oblivious (readFile root file).run := by
  refine agree_getThe_bind fun h g hg => ?_
  rw [hg.readText_eq]
  cases h.readText (root.join file) with
  | error e => exact oblivious_throw _
  | ok text => exact oblivious_pure (Except.ok text)

theorem oblivious_writeFile (text : String) : Oblivious (writeFile root file text).run := by
  refine agree_getThe_bind fun h g hg => ?_
  have hwritten := Host.Silenced.keepsDisk.writeText hg (root.join file) text
  generalize h.writeText (root.join file) text = made,
    g.writeText (root.join file) text = other at hwritten ⊢
  rcases hwritten with hwritten | e
  · exact agree_lift (agree_set hwritten)
  · exact oblivious_throw _

theorem oblivious_checkFile : Oblivious (checkFile executable timeoutMs root file).run := by
  refine oblivious_readFile.attempt_bind fun before => ?_
  refine (oblivious_formatText before).attempt_bind fun after => ?_
  split <;> exact oblivious_pure (Except.ok _)

theorem oblivious_fixFile : Oblivious (fixFile executable timeoutMs root file).run := by
  refine oblivious_readFile.attempt_bind fun before => ?_
  refine (oblivious_formatText before).attempt_bind fun after => ?_
  split
  · exact oblivious_pure (Except.ok [])
  · refine (agree_lift (oblivious_note .info _)).attempt_bind fun _ => ?_
    refine (oblivious_writeFile after).attempt_bind fun _ => ?_
    exact oblivious_pure (Except.ok _)

theorem oblivious_inTurn {treat : Path → Attempt (List Diagnostic)}
    (htreat : ∀ file, Oblivious (treat file).run) (files : List Path) :
    Oblivious (inTurn treat files).run :=
  (oblivious_attempt_mapM htreat files).attempt_bind fun _ => oblivious_pure (Except.ok _)

end Formatter

namespace Registry

variable {chain : Toolchain} {tool : Tool}

theorem oblivious_treat (htool : tool ∈ (ofToolchain chain).tools) (operation : Operation)
    (root file : Path) : Oblivious (treat operation root tool file).run := by
  rcases List.mem_pair.mp htool with rfl | rfl
  · cases operation with
    | run => exact Linter.oblivious_checkFiles [file] root
    | fix => exact oblivious_throw _
  · cases operation with
    | run => exact Formatter.oblivious_inTurn (fun _ => Formatter.oblivious_checkFile) [file]
    | fix => exact Formatter.oblivious_inTurn (fun _ => Formatter.oblivious_fixFile) [file]

theorem oblivious_perFile (chain : Toolchain) (operation : Operation) (category : ToolCategory)
    (root : Path) (files : List Path) :
    Oblivious ((ofToolchain chain).perFile operation category root files) := by
  refine (oblivious_mapM fun tool htool => oblivious_mapM fun file _ => ?_).bind fun _ =>
    oblivious_pure _
  refine (oblivious_treat (List.mem_filter.mp htool).1 operation root file).bind fun result => ?_
  cases result with
  | ok made => exact oblivious_pure made
  | error e => exact (oblivious_note .warn _).bind fun _ => oblivious_pure _

end Registry

namespace Command

variable {format other : OutputFormat}

theorem agree_toolsOf_bind {α : Type} {p q : Registry → Action α} (root : Path)
    (hnext : ∀ chain, Agree (p (.ofToolchain chain)) (q (.ofToolchain chain))) :
    Agree (toolsOf root >>= p) (toolsOf root >>= q) := by
  unfold toolsOf
  simp only [bind_assoc, pure_bind]
  exact (Settings.oblivious_load root).bind fun settings => hnext settings.tools.toolchain

theorem agree_withTool {tool : Tool} {p q : Tool → Action Nat} (kind : String)
    (hnext : Agree (p tool) (q tool)) :
    Agree (withTool (some tool) kind p) (withTool (some tool) kind q) := by
  refine agree_get_bind fun h g hg => ?_
  unfold Tool.isAvailable
  rw [hg.resolve?_eq]
  split
  · exact hnext
  · exact (oblivious_complain _).bind fun _ => oblivious_pure 1

theorem oblivious_scripts (paths : List Path) (root : Path) (quiet : Bool) :
    Oblivious (scripts paths root quiet) := by
  refine agree_get_bind fun h g hg => ?_
  have hfind : Scripts.find g (targets paths root) = Scripts.find h (targets paths root) := by
    obtain ⟨-, _, _, rfl⟩ := hg
    rfl
  rw [hfind]
  simp only
  split
  · exact (oblivious_complain _).bind fun _ => oblivious_pure _
  · exact oblivious_pure _

theorem prints_report [Printable α] (made : α) (format : OutputFormat) :
    Prints (report made format) () := by
  unfold report
  split
  · exact prints_pure ()
  · exact prints_printLine _

theorem agree_report [Printable α] (made : α) (format other : OutputFormat) :
    Agree (report made format) (report made other) :=
  (prints_report made format).agree (prints_report made other)

theorem oblivious_summarize (files : List Path) (results : List ToolResult) :
    Oblivious (summarize files results) := by
  unfold summarize
  simp only
  split
  · exact (oblivious_complain _).bind fun _ => oblivious_complain _
  · exact oblivious_pure ()

theorem agree_checkScripts (paths : List Path) (sarif : Bool) (root : Option Path)
    (hjson : other.isJson = format.isJson) :
    Agree (checkScripts paths sarif root format) (checkScripts paths sarif root other) := by
  refine agree_toolsOf_bind _ fun chain => agree_withTool _ ?_
  rw [hjson]
  refine (oblivious_scripts _ _ _).bind fun files => ?_
  refine (Registry.oblivious_perFile _ _ _ _ files).bind fun results => ?_
  cases sarif with
  | true =>
    have hline := prints_printLine (Sarif.Report.of (collectDiagnostics results)).text
    exact (hline.agree hline).bind fun _ => oblivious_pure _
  | false =>
    refine (agree_report _ format other).bind fun _ => ?_
    cases format.isJson with
    | true => exact oblivious_pure _
    | false => exact (oblivious_summarize files results).bind fun _ => oblivious_pure _

theorem oblivious_formatInput :
    Oblivious (formatInput (Formatter.tool executable timeoutMs)).run := by
  refine agree_getThe_bind fun h g hg => ?_
  have hinput : g.console.input = h.console.input := by
    obtain ⟨-, _, _, rfl⟩ := hg
    rfl
  rw [hinput]
  cases Text.decode? h.console.input with
  | none => exact oblivious_throw _
  | some source =>
    refine (Formatter.oblivious_formatText source).attempt_bind fun made => ?_
    have hraw := prints_printRaw made
    refine (agree_lift (hraw.agree hraw)).attempt_bind fun r => ?_
    cases r with
    | ok done => exact oblivious_pure (Except.ok ())
    | error e => exact oblivious_throw _

theorem agree_formatScripts (paths : List Path) (check : Bool) (root : Option Path)
    (hjson : other.isJson = format.isJson) :
    Agree (formatScripts paths check root format) (formatScripts paths check root other) := by
  refine agree_toolsOf_bind _ fun chain => agree_withTool _ ?_
  rw [hjson]
  split
  · refine oblivious_formatInput.bind fun r => ?_
    cases r with
    | ok done => exact oblivious_pure 0
    | error e => exact (oblivious_complain _).bind fun _ => oblivious_pure 1
  · refine (oblivious_scripts _ _ _).bind fun files => ?_
    have hformat : Oblivious (formatFiles (.ofToolchain chain) files check) :=
      (Registry.oblivious_perFile chain _ _ _ files).bind fun _ => oblivious_pure _
    refine hformat.bind fun made => ?_
    exact (agree_report made format other).bind fun _ => oblivious_pure _

theorem oblivious_toolEntry (tool : Tool) : Oblivious (toolEntry tool) := by
  have hversion : Oblivious tool.version? := by
    refine (oblivious_exec _).bind fun r => ?_
    cases r with
    | error e => exact oblivious_pure none
    | ok output =>
      simp only
      split <;> exact oblivious_pure _
  refine agree_get_bind fun h g hg => ?_
  rw [hg.resolve?_eq]
  simp only
  split
  · exact hversion.bind fun _ => oblivious_pure _
  · exact oblivious_pure _

theorem agree_listTools (root : Option Path) (format other : OutputFormat) :
    Agree (listTools root format) (listTools root other) := by
  refine agree_toolsOf_bind _ fun chain => ?_
  refine (oblivious_mapM fun tool _ => oblivious_toolEntry tool).bind fun entries => ?_
  exact (agree_report _ format other).bind fun _ => oblivious_pure _

theorem oblivious_makeSettingsFile (root : Path) : Oblivious (makeSettingsFile root) :=
  fun _ _ hg => keepsDisk_makeSettingsFile Host.Silenced.keepsDisk hg root

/-- A run that nobody hears, beside the same run with a reader. One that insists on being heard
fails where it would have succeeded. -/
structure SameUnheard (insists : Prop) (heard unheard : Nat × Host) : Prop where
  tree : unheard.2.tree = heard.2.tree
  code : (insists → heard.1 ≠ 0) → unheard.1 = heard.1
  errors : (insists → heard.1 ≠ 0) → unheard.2.console.errors = heard.2.console.errors
  lost : insists → heard.1 = 0 → unheard.1 = 101 ∧
    ∃ said, said ≠ "" ∧ unheard.2.console.errors = heard.2.console.errors ++ said

section Runs

variable {h g : Host} {insists : Prop}

theorem sameUnheard_of_agree {x y : Action Nat} (hx : Agree x y) (hg : h.Silenced g)
    (hdone : insists → (x.run h).1 ≠ 0) : SameUnheard insists (x.run h) (y.run g) := by
  obtain ⟨hcode, hleft⟩ := hx h g hg
  exact ⟨hleft.tree_eq, fun _ => hcode, fun _ => hleft.errors_eq,
    fun hinsists hzero => absurd hzero (hdone hinsists)⟩

theorem sameUnheard_bind {α : Type} {x : Action α} {p q : α → Action Nat} (hx : Oblivious x)
    (hg : h.Silenced g)
    (hnext : ∀ a k m, k.Silenced m → SameUnheard insists ((p a).run k) ((q a).run m)) :
    SameUnheard insists ((x >>= p).run h) ((x >>= q).run g) := by
  obtain ⟨hsame, hleft⟩ := hx h g hg
  have hrest := hnext (x.run h).1 _ _ hleft
  rw [StateT.run_bind, StateT.run_bind]
  show SameUnheard insists ((p (x.run h).1).run (x.run h).2) ((q (x.run g).1).run (x.run g).2)
  rw [hsame]
  exact hrest

theorem sameUnheard_announce (text : String) (hinsists : insists) (hg : h.Silenced g) :
    SameUnheard insists ((announce text).run h) ((announce text).run g) := by
  unfold announce
  rw [run_get_bind, run_get_bind, hg.1, hg.sink_eq]
  obtain ⟨-, isTerminal, output, rfl⟩ := hg
  have hsaid : "failed printing to stdout: " ++ IoError.brokenPipe.message ++ "\n" ≠ "" := by decide
  refine ⟨rfl, fun hcode => absurd rfl (hcode hinsists), fun hcode => absurd rfl (hcode hinsists),
    fun _ _ => ⟨rfl, _, hsaid, ?_⟩⟩
  exact String.append_assoc ..

theorem sameUnheard_setUpProject (root : Option Path) (hinsists : insists) (hg : h.Silenced g) :
    SameUnheard insists ((setUpProject root).run h) ((setUpProject root).run g) := by
  refine sameUnheard_bind (oblivious_makeSettingsFile (rootOf root)) hg fun made k m hk => ?_
  cases made with
  | ok isNew => cases isNew <;> exact sameUnheard_announce _ hinsists hk
  | error e =>
    have hfailed : Oblivious (do
        complain ("Failed to initialize: " ++ e.message); pure 1 : Action Nat) :=
      (oblivious_complain _).bind fun _ => oblivious_pure 1
    exact sameUnheard_of_agree hfailed hk fun _ => Nat.one_ne_zero

theorem sameUnheard_execute {command : Command} (root : Option Path) (hserve : command ≠ .serve)
    (hjson : other.isJson = format.isJson) (hg : h.Silenced g) :
    SameUnheard (command = .init) ((execute command root format).run h)
      ((execute command root other).run g) := by
  cases command with
  | lint paths sarif =>
    exact sameUnheard_of_agree (agree_checkScripts paths sarif root hjson) hg nofun
  | fmt paths check =>
    exact sameUnheard_of_agree (agree_formatScripts paths check root hjson) hg nofun
  | tools => exact sameUnheard_of_agree (agree_listTools root format other) hg nofun
  | init => exact sameUnheard_setUpProject root rfl hg
  | serve => exact absurd rfl hserve

theorem isJson_ofFlags (json pretty compact : Bool) (settings : PrettySection) (screen : Screen) :
    (OutputFormat.ofFlags json pretty compact settings screen).isJson = json := by
  unfold OutputFormat.ofFlags
  cases json with
  | true => rfl
  | false =>
    simp only [Bool.false_eq_true, if_false]
    split <;> rfl

theorem sameUnheard_runLine {line : CommandLine} (hserve : line.command ≠ .serve)
    (hg : h.Silenced g) :
    SameUnheard (line.command = .init) ((runLine line).run h) ((runLine line).run g) := by
  refine sameUnheard_bind (Settings.oblivious_load _) hg fun settings k m hk => ?_
  rw [run_get_bind, run_get_bind]
  refine sameUnheard_execute line.root hserve ?_ hk
  rw [isJson_ofFlags, isJson_ofFlags]

theorem prints_tellVersion : Prints tellVersion () := by
  unfold tellVersion
  constructor
  · intro h hopen
    rw [run_get_bind, hopen]
    exact ⟨_, rfl⟩
  · intro h hclosed
    rw [run_get_bind, hclosed]
    rfl

/-- A command line does the same whether it is heard or not, unless it prepares a project. The
screen may differ, since it only shapes what goes to standard output. -/
theorem sameUnheard_run {words : List String}
    (hserve : ∀ line, Arguments.parse words = .ok line → line.command ≠ .serve) (h : Host)
    (isTerminal other : Bool) :
    SameUnheard (∃ line, Arguments.parse words = .ok line ∧ line.command = .init)
      ((run words).run (h.withOutput .opened isTerminal ""))
      ((run words).run (h.withOutput .closed other "")) := by
  have hg : (h.withOutput .opened isTerminal "").Silenced (h.withOutput .closed other "") :=
    ⟨rfl, other, "", rfl⟩
  unfold run
  cases hparse : Arguments.parse words with
  | error refusal =>
    have hnone : ¬ ∃ line, (.error refusal : Arguments.Parsed CommandLine) = .ok line ∧
        line.command = .init := nofun
    cases refusal with
    | help => exact sameUnheard_of_agree (oblivious_pure 0) hg fun hinit => absurd hinit hnone
    | version =>
      have htold : Oblivious tellVersion := prints_tellVersion.agree prints_tellVersion
      exact sameUnheard_of_agree (htold.bind fun _ => oblivious_pure 0) hg
        fun hinit => absurd hinit hnone
    | misuse => exact sameUnheard_of_agree (oblivious_pure 2) hg fun hinit => absurd hinit hnone
  | ok line =>
    have hline := sameUnheard_runLine (hserve line hparse) hg
    simp only [Except.ok.injEq, exists_eq_left']
    rw [run_get_bind, run_get_bind]
    exact ⟨hline.tree, hline.code, hline.errors, hline.lost⟩

theorem sameUnheard_run_fmt :
    let words := ["fmt", "--check", "a.fish"]
    let heard := (run words).run (mixed.withOutput .opened true "")
    let unheard := (run words).run (mixed.withOutput .closed false "")
    SameUnheard (∃ line, Arguments.parse words = .ok line ∧ line.command = .init) heard unheard ∧
      heard.1 = 1 ∧ unheard.1 = 1 ∧ heard.2.console.output ≠ "" ∧
      unheard.2.console.output = "" := by
  intro words heard unheard
  have hparse : Arguments.parse words =
      .ok ⟨false, false, false, false, none, .fmt [⟨"a.fish"⟩] true⟩ := rfl
  have hserve : ∀ line, Arguments.parse words = .ok line → line.command ≠ .serve := by
    intro line hline
    rw [hparse] at hline
    cases hline
    nofun
  have hsame := sameUnheard_run hserve mixed true false
  exact ⟨hsame, by decide +kernel⟩

/-- Preparing a project succeeds with a reader and fails without one. -/
theorem run_init_unheard :
    let h : Host := .offering []
    let heard := (run ["init"]).run (h.withOutput .opened false "")
    let unheard := (run ["init"]).run (h.withOutput .closed false "")
    heard.1 = 0 ∧ unheard.1 ≠ heard.1 ∧
      unheard.2.console.errors ≠ heard.2.console.errors := by decide +kernel

end Runs
end Command
end ScriptCheck
