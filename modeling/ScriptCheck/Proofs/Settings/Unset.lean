import ScriptCheck.Command.Init
import ScriptCheck.Proofs.Host.Directory
import ScriptCheck.Proofs.Settings.Layers

/-! Settings that set nothing. A file of them can be added, with the directories that it needs, and
each path goes on to set what it did, unless the directories bring another file within reach. -/

namespace ScriptCheck

variable {h g k : Host} {root path : Path} {place : Place} {text : String}

namespace Settings

set_option maxRecDepth 4000 in
theorem parse?_template : Toml.parse? Command.settingsTemplate =
    some (.table [("tools", .table []), ("lint", .table []), ("format", .table [])]) := by
  -- The characters of a literal are at hand, while decoding its bytes takes long.
  have hchars : Command.settingsTemplate.toList = _ := String.toList_ofList
  generalize Command.settingsTemplate = text at hchars ⊢
  unfold Toml.parse?
  rw [hchars]
  rfl

theorem ofToml?_of_parse? {document : Toml} (hparse : Toml.parse? text = some document) :
    ofToml? text = (decode tomlRules document.toJson).toOption := by
  unfold ofToml?
  rw [hparse]

theorem ofToml?_template : ofToml? Command.settingsTemplate = some {} :=
  (ofToml?_of_parse? parse?_template).trans rfl

theorem ofToml?_empty : ofToml? "" = some {} := by decide +kernel

def setBy (h : Host) (path : Path) (l : Leaf) : Option l.Value := (inFile? h path).bind (·.leaf l)

theorem setBy_of_readText (hread : h.readText path = .ok text) (l : Leaf) :
    setBy h path l = (ofToml? text).bind (·.leaf l) := by
  unfold setBy inFile?
  rw [hread]
  rfl

theorem setBy_of_not_isFile (hfile : h.isFile path = false) (l : Leaf) :
    setBy h path l = none := by
  unfold Host.isFile at hfile
  unfold setBy inFile? Host.readText Host.readBytes
  cases hnode : h.node? path with
  | error e => rfl
  | ok node =>
    rw [hnode] at hfile
    cases node with
    | file content mode => cases hfile
    | program run mode => cases hfile
    | dir entries => rfl
    | link target =>
      have htext : Text.decode? .empty = some "" := Text.decode?_toUTF8 ""
      simp only [bind, Except.bind, pure, Except.pure, htext]
      show (ofToml? "").bind (·.leaf l) = none
      rw [ofToml?_empty, Option.bind_some, leaf_default]

theorem setBy_of_wrote {dir : Path} (hmade : h.MadeDirs g dir) (hk : g.Wrote k place text)
    (htext : ofToml? text = some {}) (hnone : h.tree.at? place = none)
    (hreach : h.isFile path = false → g.isFile path = false) (l : Leaf) :
    setBy k path l = setBy h path l := by
  cases hfile : h.isFile path with
  | true =>
    obtain ⟨there, node, hthere, hnode, -⟩ := Host.isFile_eq_true_iff.mp hfile
    have hkept : k.locate path = .ok there :=
      hk.locate_eq_ok_iff.mpr (hmade.locate_eq hthere)
    have hother : there ≠ place := by
      rintro rfl
      cases hnone.symm.trans hnode
    have hbare : (k.tree.at? there).map Node.bare = (h.tree.at? there).map Node.bare := by
      rw [hk.elsewhere there hother, hmade.bare_eq hnode, hnode]
      rfl
    have hread : k.readText path = h.readText path := by
      refine Host.readText_congr ?_
      rw [Host.readBytes_eq, Host.readBytes_eq, hkept, hthere]
      simp only [Except.bind, hbare]
    unfold setBy inFile?
    rw [hread]
  | false =>
    rw [setBy_of_not_isFile hfile]
    cases hnew : k.isFile path with
    | false => exact setBy_of_not_isFile hnew l
    | true =>
      obtain ⟨there, node, hthere, -⟩ := Host.isFile_eq_true_iff.mp hnew
      by_cases hother : there = place
      · subst hother
        obtain ⟨mode, hafter, -⟩ := hk.after
        have hread := Host.readText_of_readBytes (Host.readBytes_of_file hthere hafter)
        rw [setBy_of_readText hread, htext, Option.bind_some, leaf_default]
      · have hbefore := hk.isFile_of_ne hthere hother hnew
        rw [hreach hfile] at hbefore
        cases hbefore

def projectFile (root : Path) : Path := (projectDir root).join fileName

theorem projectFile_mem_files (h : Host) (root : Path) : projectFile root ∈ files h root := by
  simp [files, projectFile]

theorem load_eq_of_setBy (hdir : globalDir? g = globalDir? h)
    (hset : ∀ path ∈ files h root, ∀ l, setBy g path l = setBy h path l) :
    ((load root).run g).1 = ((load root).run h).1 := by
  refine ext_leaf fun l => ?_
  have hproject : setBy g (projectFile root) l = setBy h (projectFile root) l :=
    hset _ (projectFile_mem_files h root) l
  rw [leaf_load, leaf_load, hdir]
  refine congrArg₂ Option.or hproject ?_
  cases hglobal : globalDir? h with
  | none => rfl
  | some dir => exact hset _ (by simp [files, hglobal]) l

end Settings
end ScriptCheck
