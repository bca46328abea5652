import ScriptCheck.Proofs.Host.Action
import ScriptCheck.Settings.Load

/-! Loading the settings reads the files that count, one over the other, and changes none. -/

namespace ScriptCheck.Settings

variable {h t : Host}

def withFile (t : Host) (settings : Settings) (path : Path) : Settings :=
  match ofFile? t path with
  | .ok (some layer) => Layered.overlay settings layer
  | _ => settings

theorem ends_addFile (settings : Settings) (path : Path) (ht : t.Alike h) :
    Ends (addFile settings path) h (withFile t settings path) t := by
  unfold addFile
  refine (ends_get ht).bind fun g hg => ?_
  have hfile : ofFile? h path = ofFile? t path := by
    unfold ofFile?
    rw [ht.readText_eq]
  rw [hfile]
  unfold withFile
  cases ofFile? t path with
  | error e => exact (ends_note .warn _ hg).bind fun k hk => ends_pure _ hk
  | ok layer? =>
    cases layer? with
    | none => exact ends_pure _ hg
    | some layer => exact (ends_note .debug _ hg).bind fun k hk => ends_pure _ hk

theorem ends_foldlM_addFile (paths : List Path) (settings : Settings) (ht : t.Alike h) :
    Ends (paths.foldlM addFile settings) h (paths.foldl (withFile t) settings) t := by
  induction paths generalizing settings h with
  | nil => exact ends_pure settings ht
  | cons path paths ih =>
    rw [List.foldlM_cons]
    exact (ends_addFile settings path ht).bind fun g hg => ih _ hg

theorem ends_load (root : Path) (ht : t.Alike h) :
    Ends (load root) h ((files t root).foldl (withFile t) {}) t := by
  refine (ends_get ht).bind fun g hg => ?_
  have hfiles : files h root = files t root := by
    obtain ⟨_, _, _, rfl⟩ := ht
    rfl
  rw [hfiles]
  exact ends_foldlM_addFile (files t root) {} hg

end ScriptCheck.Settings
