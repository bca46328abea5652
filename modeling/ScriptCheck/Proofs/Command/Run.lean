import ScriptCheck.Command.Run
import ScriptCheck.Proofs.Command.Basic

/-! A whole run. The words settle the command and the root, the settings and the screen settle the
format, and the log has no say in what comes of the command. -/

namespace ScriptCheck.Command

variable {words : List String} {line : CommandLine} {code : Nat} {t u h : Host}

def formatOf (line : CommandLine) (h : Host) : OutputFormat :=
  .ofFlags line.json line.pretty line.compact
    ((Settings.load (rootOf line.root)).run h).1.pretty (screenOf h)

theorem ends_runLine (ht : t.Alike h)
    (hexecute : ∀ g, t.Alike g →
      Ends (execute line.command line.root (formatOf line t)) g code u) :
    Ends (runLine line) h code u := by
  have hsettings : ((Settings.load (rootOf line.root)).run t).1 =
      (Settings.files t (rootOf line.root)).foldl (Settings.withFile t) {} := by
    obtain ⟨g, hrun, -⟩ := Settings.ends_load (rootOf line.root) (.refl t)
    rw [hrun]
  refine (Settings.ends_load (rootOf line.root) ht).bind fun g hg => ?_
  refine (ends_get hg).bind fun k hk => ?_
  have hscreen : screenOf g = screenOf t := by
    obtain ⟨_, _, _, rfl⟩ := hg
    rfl
  rw [hscreen, ← hsettings]
  exact hexecute k hk

theorem ends_run (hparse : Arguments.parse words = .ok line)
    (hexecute : ∀ g, h.Alike g →
      Ends (execute line.command line.root (formatOf line h)) g code u) :
    Ends (run words) h code u := by
  unfold run
  rw [hparse]
  refine (ends_get (.refl h)).bind fun g hg => ?_
  refine (ends_runLine hg hexecute).bind fun k hk => ?_
  have hforget : Ends (modify fun k => { k with
      journal := k.journal.filter (logFilter h line.verbose).admits }) k () u :=
    ⟨_, rfl, hk.trans ⟨_, _, _, rfl⟩⟩
  exact hforget.bind fun m hm => ends_pure code hm

end ScriptCheck.Command
