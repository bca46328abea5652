import ScriptCheck.Proofs.Server.Operations
import ScriptCheck.Proofs.Settings.Decode

/-! The settings that the server works with. They are those of the files with what the editor
gave last over them, and the tools are the ones that these settings name; what was given before
leaves no trace. -/

namespace ScriptCheck

def Settings.ofEditor : Option Json → Settings
  | some value => (ofClient value).toOption.getD {}
  | none => {}

namespace Server

open Layered

variable {files : Settings} {given : Option Json} {s : Server} {x y : Activity} {m : Moment}
  {history : History}

def Moment.given? : Moment → Option Json
  | received (.settings value) _ => some value
  | _ => none

def History.lastGiven (first : Option Json) (history : History) : Option Json :=
  (history.filterMap Moment.given?).getLast?.or first

theorem lastGiven_concat (first : Option Json) (past : History) (m : Moment) :
    History.lastGiven first (past ++ [m]) = m.given?.or (History.lastGiven first past) := by
  unfold History.lastGiven
  cases hm : m.given? <;> simp [hm]

def limitMs (tools : ToolsSection) : Option Nat :=
  (some (tools.timeoutMs.getD 10000)).filter (· ≠ 0)

/-- The server works with the settings of the files and those that the editor gave last, and
with the tools that these name. An object that spells settings counts in every leaf, and what does
not read well in none. -/
structure ConfiguredBy (files : Settings) (given : Option Json) (s : Server) : Prop where
  fileSettings : s.fileSettings = files
  settings : s.settings = overlay files (Settings.ofEditor given)
  spelled : ∀ value entries (c : Settings), given = some value → Settings.Sends entries value →
    (∀ l x, c.leaf l = some x → l.Fits x) → Settings.Spells c entries →
      ∀ l, s.settings.leaf l = (c.leaf l).or (files.leaf l)
  faulty : ∀ value entries, given = some value → Settings.Sends entries value →
    Settings.Faulty entries → s.settings = files
  unread : (given = none ∨ given = some .null ∨
    ∃ value e, given = some value ∧ Settings.ofClient value = .error e) → s.settings = files
  linter : s.registry.linter? =
    some (Linter.tool (s.settings.tools.fish.getD ⟨"fish"⟩) (limitMs s.settings.tools))
  formatter : s.registry.formatter? =
    some (Formatter.tool (s.settings.tools.fishIndent.getD ⟨"fish_indent"⟩)
      (limitMs s.settings.tools))

theorem timeoutMs_toolchain (tools : ToolsSection) :
    tools.toolchain.timeoutMs = limitMs tools := by
  unfold ToolsSection.toolchain limitMs
  cases tools.timeoutMs with
  | none => rfl
  | some ms => cases ms <;> rfl

theorem formatter?_ofToolchain (t : Toolchain) :
    (Registry.ofToolchain t).formatter? = some (Formatter.tool t.fishIndent t.timeoutMs) := rfl

theorem ofEditor_eq_default (hgiven : given = none ∨ given = some .null ∨
    ∃ value e, given = some value ∧ Settings.ofClient value = .error e) :
    Settings.ofEditor given = {} := by
  rcases hgiven with rfl | rfl | ⟨value, e, rfl, hvalue⟩
  · rfl
  · rfl
  · simp [Settings.ofEditor, hvalue, Except.toOption]

theorem applySettings_settings (s : Server) (given : Option Json) :
    (s.applySettings given).1.settings = overlay s.fileSettings (Settings.ofEditor given) := by
  unfold applySettings Settings.ofEditor
  cases given with
  | none => exact (Settings.overlay_default_right _).symm
  | some value =>
    cases hvalue : Settings.ofClient value with
    | ok layer => simp [hvalue, Except.toOption]
    | error e => simp [hvalue, Except.toOption, Settings.overlay_default_right]

theorem applySettings_of_unread (s : Server) (hgiven : given = none ∨ given = some .null ∨
    ∃ value e, given = some value ∧ Settings.ofClient value = .error e) :
    (s.applySettings given).1.settings = s.fileSettings := by
  rw [applySettings_settings, ofEditor_eq_default hgiven, Settings.overlay_default_right]

theorem configuredBy_applySettings (s : Server) (given : Option Json) :
    ConfiguredBy s.fileSettings given (s.applySettings given).1 where
  fileSettings := rfl
  settings := applySettings_settings s given
  spelled := by
    rintro value entries c rfl hsends hfits hspells l
    have hvalue := Settings.ofClient_eq_ok_of_spells hsends hfits hspells
    rw [applySettings_settings, Settings.leaf_overlay, Settings.ofEditor, hvalue]
    rfl
  faulty := by
    rintro value entries rfl hsends hfaulty
    obtain ⟨e, he⟩ := Settings.exists_ofClient_error_of_faulty hsends hfaulty
    exact applySettings_of_unread s (.inr (.inr ⟨value, e, rfl, he⟩))
  unread := applySettings_of_unread s
  linter := by
    rw [← timeoutMs_toolchain]
    exact linter?_ofToolchain _
  formatter := by
    rw [← timeoutMs_toolchain]
    exact formatter?_ofToolchain _

theorem ConfiguredBy.onDocument (hs : ConfiguredBy files given s)
    (event : DocumentStore.Event) : ConfiguredBy files given (s.onDocument event).1 := by
  obtain ⟨hfiles, hsettings, hspelled, hfaulty, hunread, hlinter, hformatter⟩ := hs
  cases event with
  | closed uri => exact ⟨hfiles, hsettings, hspelled, hfaulty, hunread, hlinter, hformatter⟩
  | _ =>
    unfold Server.onDocument schedule
    dsimp only
    split <;> exact ⟨hfiles, hsettings, hspelled, hfaulty, hunread, hlinter, hformatter⟩

theorem Step.configuredBy (hs : Step x m y) (hx : ConfiguredBy files given x.server) :
    ConfiguredBy files (m.given?.or given) y.server := by
  cases hs with
  | receive s es h n =>
    cases n with
    | settings value =>
      have happlied := configuredBy_applySettings s (some value)
      rw [hx.fileSettings] at happlied
      exact happlied
    | document event => exact hx.onDocument event
    | _ => exact hx
  | _ => exact hx

theorem Run.configuredBy (hrun : Run x history y) (hx : ConfiguredBy files given x.server) :
    ConfiguredBy files (History.lastGiven given history) y.server := by
  have hstep : ∀ past z m z', ConfiguredBy files (History.lastGiven given past) z.server →
      Step z m z' → ConfiguredBy files (History.lastGiven given (past ++ [m])) z'.server := by
    intro past z m z' hz hm
    rw [lastGiven_concat]
    exact hm.configuredBy hz
  have hempty : ConfiguredBy files (History.lastGiven given []) x.server := hx
  exact hrun.invariant hstep hempty

theorem configuredBy_begun (h : Host) (launchRoot : Option Path) (w : Workspace) :
    ConfiguredBy ((Settings.load (rootOf launchRoot w)).run h).1 w.settings
      (begun h launchRoot w).server :=
  configuredBy_applySettings
    { fresh with fileSettings := ((Settings.load (rootOf launchRoot w)).run h).1 } w.settings

/-- Along a run the server goes by the files that it read at the start and by what the editor
gave last, which counts for nothing if it does not read well. -/
theorem configuredBy_of_run {h : Host} {launchRoot : Option Path} {w : Workspace}
    (hrun : Run (begun h launchRoot w) history y) :
    ConfiguredBy ((Settings.load (rootOf launchRoot w)).run h).1
      (History.lastGiven w.settings history) y.server :=
  hrun.configuredBy (configuredBy_begun h launchRoot w)

/-- Neither the linter that the editor began with nor the timeout that it gave later is left when it
gives settings that do not read well, and what it gives after them names another formatter. -/
theorem configuredBy_of_run_misread :
    let h := Settings.machine "" "[lint]\non_save = false\n"
    let w : Workspace := ⟨none, [], some (.obj [("tools", .obj [("fish", .str "/bin/fish")])])⟩
    let misread : Json := .obj [("tools", .obj [("timeout_ms", .nat 5)]), ("lint", .nat 3)]
    let entries : List (String × Json) :=
      [("tools", .obj [("fish_indent", .str "/opt/indent"), ("timeout_ms", .nat 0)])]
    let c : Settings := { tools := { fishIndent := some ⟨"/opt/indent"⟩, timeoutMs := some 0 } }
    (∃ history y, Run (begun h (some ⟨"/project"⟩) w) history y ∧
      History.lastGiven w.settings history = some misread ∧
      y.server.settings = { lint := { onSave := some false } } ∧
      y.server.registry.linter? = some (Linter.tool ⟨"fish"⟩ (some 10000))) ∧
    ∃ history y, Run (begun h (some ⟨"/project"⟩) w) history y ∧
      History.lastGiven w.settings history = some (.obj [("gill", .obj entries)]) ∧
      y.server.settings = { c with lint := { onSave := some false } } ∧
      y.server.registry.linter? = some (Linter.tool ⟨"fish"⟩ none) ∧
      y.server.registry.formatter? = some (Formatter.tool ⟨"/opt/indent"⟩ none) := by
  intro h w misread entries c
  have hfiles : ((Settings.load (rootOf (some ⟨"/project"⟩) w)).run h).1 =
      { lint := { onSave := some false } } := by decide +kernel
  have hfaulty : Settings.Faulty [("tools", .obj [("timeout_ms", .nat 5)]), ("lint", .nat 3)] :=
    .ofSection .lint (.nat 3) rfl nofun nofun
  have hfits : ∀ l x, c.leaf l = some x → l.Fits x := by
    intro l x hx
    cases l with
    | timeoutMs =>
      cases hx
      show 0 < limit64
      decide
    | debounceMs => cases hx
    | _ => trivial
  have hspells : Settings.Spells c entries := by
    refine ⟨⟨by decide, ?_⟩, ?_, ?_⟩
    · intro s v hv
      cases s <;> cases hv
      exact ⟨_, rfl, by decide⟩
    · intro l x hx
      cases l <;> cases hx <;> rfl
    · intro l hl
      cases l <;> cases hl <;> exact .inl rfl
  have hgiven (value : Json) : ∃ history y, Run (begun h (some ⟨"/project"⟩) w) history y ∧
      History.lastGiven w.settings history = some value := by
    let timeout : Json := .obj [("tools", .obj [("timeout_ms", .nat 0)])]
    exact ⟨_, _, .cons (.receive _ _ h (.settings timeout)) <|
      .cons (.receive _ _ h (.settings misread)) <|
      .cons (.receive _ _ h (.settings value)) <| .nil _, rfl⟩
  constructor
  · obtain ⟨history, y, hrun, hlast⟩ := hgiven misread
    have hconfigured := configuredBy_of_run hrun
    rw [hfiles, hlast] at hconfigured
    have hsettings := hconfigured.faulty _ _ rfl (.bare rfl) hfaulty
    refine ⟨history, y, hrun, hlast, hsettings, ?_⟩
    rw [hconfigured.linter, hsettings]
    rfl
  · obtain ⟨history, y, hrun, hlast⟩ := hgiven (.obj [("gill", .obj entries)])
    have hconfigured := configuredBy_of_run hrun
    rw [hfiles, hlast] at hconfigured
    have hleaf := hconfigured.spelled _ _ c rfl (.wrapped _ rfl) hfits hspells
    have hsettings : y.server.settings = { c with lint := { onSave := some false } } := by
      refine Settings.ext_leaf fun l => (hleaf l).trans ?_
      cases l <;> rfl
    refine ⟨history, y, hrun, hlast, hsettings, ?_, ?_⟩
    · rw [hconfigured.linter, hsettings]
      rfl
    · rw [hconfigured.formatter, hsettings]
      rfl

end Server
end ScriptCheck
