import Mathlib.Data.List.Forall2
import Mathlib.Data.List.Nodup
import Mathlib.Tactic.Choose
import ScriptCheck.Proofs.Host.Offering
import ScriptCheck.Proofs.Host.Resolution
import ScriptCheck.Proofs.Host.Tree
import ScriptCheck.Proofs.Text.Order
import ScriptCheck.Tool.Scripts

/-! The scripts that paths stand for. A directory stands for the files below it that have the
extension of a script and no hidden name on the way to them, one after another as they are met when
every directory is gone through in the order of its names. -/

namespace ScriptCheck

variable {entries : List (String × Node)} {node : Node} {name : String} {path : Path}
  {place : Place} {h : Host}

namespace Scripts

def shown (entries : List (String × Node)) : List (String × Node) :=
  (entries.filter fun entry => !isHidden entry.1).mergeSort fun a b => a.1 ≤ b.1

theorem branches_eq (dir : Path) (entries : List (String × Node)) :
    branches dir entries = (entries.filter fun entry => !isHidden entry.1).map fun entry =>
      (entry.1, under (dir.join ⟨entry.1⟩) entry.1 entry.2) := by
  induction entries with
  | nil => rw [branches]; rfl
  | cons entry entries ih =>
    obtain ⟨name, node⟩ := entry
    rw [branches, ih]
    by_cases hhidden : isHidden name = true
    · rw [if_pos hhidden, List.filter_cons_of_neg (by simpa using hhidden)]
    · rw [if_neg hhidden, List.filter_cons_of_pos (by simpa using hhidden), List.map_cons]

theorem under_dir (path : Path) (name : String) (entries : List (String × Node)) :
    under path name (.dir entries) =
      (shown entries).flatMap fun entry => under (path.join ⟨entry.1⟩) entry.1 entry.2 := by
  have hsort := List.map_mergeSort (r := fun a b => decide (a.1 ≤ b.1))
    (s := fun a b => decide (a.1 ≤ b.1)) (l := entries.filter fun entry => !isHidden entry.1)
    (f := fun entry => (entry.1, under (path.join ⟨entry.1⟩) entry.1 entry.2))
    fun _ _ _ _ => rfl
  rw [under, branches_eq, ← hsort, List.flatMap_map]
  rfl

theorem mem_shown {entry : String × Node} :
    entry ∈ shown entries ↔ entry ∈ entries ∧ isHidden entry.1 = false := by
  unfold shown
  rw [List.mem_mergeSort, List.mem_filter, Bool.not_eq_true']

theorem pairwise_shown (hdistinct : (entries.map Prod.fst).Nodup) :
    (shown entries).Pairwise fun a b => Text.bytes a.1 < Text.bytes b.1 := by
  have hsorted : (shown entries).Pairwise fun a b => decide (a.1 ≤ b.1) = true := by
    refine List.pairwise_mergeSort (fun a b c hab hbc => ?_) (fun a b => ?_) _
    · rw [decide_eq_true_eq] at hab hbc ⊢
      exact String.le_trans hab hbc
    · rw [Bool.or_eq_true, decide_eq_true_eq, decide_eq_true_eq]
      exact String.le_total a.1 b.1
  have hkept : (shown entries).Pairwise fun a b => a.1 ≠ b.1 := by
    have hall : entries.Pairwise fun a b => a.1 ≠ b.1 := List.pairwise_map.mp hdistinct
    exact (List.mergeSort_perm _ _).symm.pairwise (hall.filter _) fun hne => hne.symm
  refine hsorted.imp₂ (fun a b hle hne => ?_) hkept
  exact Text.bytes_lt_of_le (of_decide_eq_true hle) hne

/-- The order in which places are met, depth first, by the bytes of the first names that differ. -/
def Earlier : Place → Place → Prop := List.Lex fun name other => Text.bytes name < Text.bytes other

structure IsFound (name : String) (node : Node) (place : Place) : Prop where
  file : ∃ script, node.at? place = some script ∧ script.isFile = true
  visible : ∀ name ∈ place, isHidden name = false
  script : isScript (place.getLastD name) = true

structure Lists (name : String) (node : Node) (places : List Place) : Prop where
  paths : ∀ path, under path name node = places.map path.below
  complete : ∀ place, place ∈ places ↔ IsFound name node place
  inOrder : places.Pairwise Earlier

theorem isFound_nil_iff : IsFound name node [] ↔ node.isFile = true ∧ isScript name = true := by
  constructor
  · rintro ⟨⟨script, hscript, hfile⟩, -, hname⟩
    rw [Node.at?_nil, Option.some.injEq] at hscript
    exact ⟨hscript ▸ hfile, hname⟩
  · rintro ⟨hfile, hname⟩
    exact ⟨⟨node, Node.at?_nil node, hfile⟩, List.forall_mem_nil _, hname⟩

theorem isFound_cons_iff (hdir : (Node.dir entries).WellFormed) {other : String} :
    IsFound name (.dir entries) (other :: place) ↔
      ∃ child, (other, child) ∈ entries ∧ isHidden other = false ∧ IsFound other child place := by
  constructor
  · rintro ⟨⟨script, hscript, hfile⟩, hvisible, hname⟩
    rw [Node.at?_dir_cons] at hscript
    obtain ⟨child, hchild, hscript⟩ := Option.bind_eq_some_iff.mp hscript
    obtain ⟨hother, hrest⟩ := List.forall_mem_cons.mp hvisible
    rw [List.getLastD_cons] at hname
    exact ⟨child, hdir.lookup_iff.mp hchild, hother, ⟨script, hscript, hfile⟩, hrest, hname⟩
  · rintro ⟨child, hchild, hother, ⟨script, hscript, hfile⟩, hrest, hname⟩
    refine ⟨⟨script, ?_, hfile⟩, List.forall_mem_cons.mpr ⟨hother, hrest⟩, ?_⟩
    · rw [Node.at?_dir_cons, hdir.lookup_iff.mpr hchild]
      exact hscript
    · rw [List.getLastD_cons]
      exact hname

theorem lists_leaf (hleaf : node.isDir = false) (name : String) :
    Lists name node (if node.isFile ∧ isScript name then [[]] else []) where
  paths := by
    intro path
    cases node with
    | dir entries => cases hleaf
    | link target => rfl
    | _ =>
      rw [under]
      by_cases hname : isScript name = true <;> simp [hname, Node.isFile, Path.below]
  complete := by
    intro place
    cases place with
    | nil =>
      rw [isFound_nil_iff]
      split
      next hscript => exact iff_of_true List.mem_cons_self hscript
      next hscript => exact iff_of_false List.not_mem_nil hscript
    | cons other place =>
      refine iff_of_false ?_ ?_
      · split <;> simp
      · rintro ⟨⟨script, hscript, -⟩, -, -⟩
        rw [Node.at?_cons_of_not_isDir hleaf] at hscript
        cases hscript
  inOrder := by split <;> simp

theorem lists_dir (hdir : (Node.dir entries).WellFormed) {placesOf : String × Node → List Place}
    (hentries : ∀ entry ∈ entries, Lists entry.1 entry.2 (placesOf entry)) (name : String) :
    Lists name (.dir entries)
      ((shown entries).flatMap fun entry => (placesOf entry).map (entry.1 :: ·)) where
  paths := by
    intro path
    rw [under_dir, List.map_flatMap]
    refine List.flatMap_congr fun entry hentry => ?_
    rw [(hentries entry (mem_shown.mp hentry).1).paths, List.map_map]
    rfl
  complete := by
    intro place
    cases place with
    | nil =>
      have hdirectory : ¬ IsFound name (.dir entries) [] := fun hfound =>
        Bool.false_ne_true (isFound_nil_iff.mp hfound).1
      exact iff_of_false (by simp) hdirectory
    | cons other place =>
      rw [isFound_cons_iff hdir, List.mem_flatMap]
      constructor
      · rintro ⟨entry, hentry, hplace⟩
        obtain ⟨rest, hrest, heq⟩ := List.mem_map.mp hplace
        obtain ⟨rfl, rfl⟩ := List.cons.inj heq
        obtain ⟨hmem, hshown⟩ := mem_shown.mp hentry
        exact ⟨entry.2, hmem, hshown, ((hentries entry hmem).complete rest).mp hrest⟩
      · rintro ⟨child, hmem, hshown, hfound⟩
        refine ⟨(other, child), mem_shown.mpr ⟨hmem, hshown⟩, List.mem_map_of_mem ?_⟩
        exact ((hentries _ hmem).complete place).mpr hfound
  inOrder := by
    rw [List.pairwise_flatMap]
    constructor
    · intro entry hentry
      have hbelow := (hentries entry (mem_shown.mp hentry).1).inOrder
      exact hbelow.map _ fun _ _ => List.Lex.cons
    · refine (pairwise_shown hdir.wellNamed.distinct).imp fun {a b} hbytes => ?_
      intro place hplace other hother
      obtain ⟨rest, -, rfl⟩ := List.mem_map.mp hplace
      obtain ⟨rest', -, rfl⟩ := List.mem_map.mp hother
      exact List.Lex.rel hbytes

theorem exists_lists (hnode : node.WellFormed) (name : String) :
    ∃ places, Lists name node places := by
  induction node using Node.inductionOn generalizing name with
  | leaf node hleaf => exact ⟨_, lists_leaf hleaf name⟩
  | dir entries ih =>
    choose! placesOf hplacesOf using fun entry hentry =>
      ih entry hentry (hnode.of_mem hentry) entry.1
    exact ⟨_, lists_dir hnode hplacesOf name⟩

/-- Below a directory, a place of a file with the extension of scripts, with no hidden name on the
way to it and no link. -/
structure IsScriptAt (dir : Node) (place : Place) : Prop where
  file : ∃ script, dir.at? place = some script ∧ script.isFile = true
  visible : ∀ name ∈ place, ∀ rest, name ≠ "." ++ rest
  extension : ∃ stem, stem ≠ "" ∧ place.getLast? = some (stem ++ ".fish")

/-- The paths that a path stands for: the scripts below a directory, and otherwise itself. -/
inductive StandsFor (h : Host) (path : Path) : List Path → Prop
  | itself (hpath : ∀ entries, h.node? path ≠ .ok (.dir entries)) : StandsFor h path [path]
  | directory (entries : List (String × Node)) (places : List Place)
      (hdir : h.node? path = .ok (.dir entries))
      (complete : ∀ place, place ∈ places ↔ IsScriptAt (.dir entries) place)
      (inOrder : places.Pairwise Earlier)
      (once : (places.map path.below).Nodup) : StandsFor h path (places.map path.below)

theorem isHidden_eq_false_iff : isHidden name = false ↔ ∀ rest, name ≠ "." ++ rest := by
  unfold isHidden
  rw [decide_eq_false_iff_not, List.head?_eq_some_iff]
  refine not_exists.trans ⟨fun hnone rest heq => ?_, fun hnone rest hchars => ?_⟩
  · exact hnone rest.toList (by rw [heq, String.toList_append]; rfl)
  · exact hnone (.ofList rest) (by rw [← String.toList_inj, hchars]; simp)

theorem isScript_iff : isScript name = true ↔ ∃ stem, stem ≠ "" ∧ name = stem ++ ".fish" := by
  have hspelled (stem : String) : stem ++ "." ++ "fish" = stem ++ ".fish" := by
    rw [String.append_assoc]
    rfl
  unfold isScript
  rw [decide_eq_true_eq, Path.extension?_eq_some_iff]
  simp only [hspelled]
  exact exists_congr fun stem => and_congr_right fun _ => and_iff_right (by decide)

theorem isFound_dir_iff : IsFound "" (.dir entries) place ↔ IsScriptAt (.dir entries) place := by
  have hlast : isScript (place.getLastD "") = true ↔
      ∃ stem, stem ≠ "" ∧ place.getLast? = some (stem ++ ".fish") := by
    rw [isScript_iff, List.getLastD_eq_getLast?]
    cases place.getLast? with
    | some last => simp
    | none =>
      simp
  constructor
  · rintro ⟨hfile, hvisible, hscript⟩
    exact ⟨hfile, fun n hn => isHidden_eq_false_iff.mp (hvisible n hn), hlast.mp hscript⟩
  · rintro ⟨hfile, hvisible, hscript⟩
    exact ⟨hfile, fun n hn => isHidden_eq_false_iff.mpr (hvisible n hn), hlast.mpr hscript⟩

theorem Earlier.irrefl (place : Place) : ¬ Earlier place place := by
  induction place with
  | nil => nofun
  | cons name rest ih =>
    rintro (_ | hname | hrest)
    · exact List.lt_irrefl _ hname
    · exact ih hrest

theorem Lists.nodup {places : List Place} (hlists : Lists name node places) : places.Nodup := by
  refine hlists.inOrder.imp fun {place other} hearlier hsame => ?_
  exact Earlier.irrefl other (hsame ▸ hearlier)

theorem standsFor_ofPath (hdisk : h.tree.WellFormed) (path : Path) :
    StandsFor h path (ofPath h path) := by
  unfold ofPath
  split
  next entries hdir =>
    obtain ⟨top, hlocate, htop⟩ := Host.node?_eq_ok_iff.mp hdir
    have hwell := hdisk.at_place htop
    have hpath := Path.text_ne_empty_of_sound (Host.defect?_of_locate hlocate)
    obtain ⟨places, hlists⟩ := exists_lists hwell ""
    have hcomplete (place : Place) : place ∈ places ↔ IsScriptAt (.dir entries) place :=
      (hlists.complete place).trans isFound_dir_iff
    have hnames (place : Place) (hplace : place ∈ places) :
        place ≠ [] ∧ ∀ name ∈ place, Path.IsWord name := by
      obtain ⟨⟨script, hscript, -⟩, -, stem, -, hlast⟩ := (hcomplete place).mp hplace
      refine ⟨?_, hwell.words hscript⟩
      rintro rfl
      cases hlast
    rw [hlists.paths]
    refine .directory entries places hdir hcomplete hlists.inOrder ?_
    refine hlists.nodup.map_on fun place hplace other hother hsame => ?_
    obtain ⟨hne, hwords⟩ := hnames place hplace
    obtain ⟨hne', hwords'⟩ := hnames other hother
    exact Path.below_inj hpath hne hwords hne' hwords' hsame
  next hpath => exact .itself hpath

/-- Every path is looked at by itself. -/
theorem standsFor_find (hdisk : h.tree.WellFormed) (paths : List Path) : ∃ found,
    List.Forall₂ (StandsFor h) paths found ∧ find h paths = found.flatten := by
  refine ⟨paths.map (ofPath h), ?_, List.flatMap_def⟩
  rw [List.forall₂_map_right_iff, List.forall₂_same]
  exact fun path _ => standsFor_ofPath hdisk path

def scriptsMachine : Host := { Host.offering [] with
  tree := .dir [("b.fish", .file .empty 0o644),
    (".git", .dir [("hook.fish", .file .empty 0o644)]),
    ("a", .dir [("notes", .file .empty 0o644), ("c.fish", .file .empty 0o644)]),
    ("later.fish", .link ⟨"b.fish"⟩), ("again", .link ⟨"a"⟩)] }

theorem standsFor_find_hidden :
    let paths : List Path := [⟨"/"⟩, ⟨"notes"⟩, ⟨"/.git"⟩, ⟨"/again"⟩]
    ∃ found, List.Forall₂ (StandsFor scriptsMachine) paths found ∧ found.flatten =
      [⟨"/a/c.fish"⟩, ⟨"/b.fish"⟩, ⟨"notes"⟩, ⟨"/.git/hook.fish"⟩, ⟨"/again/c.fish"⟩] := by
  intro paths
  have hdisk : scriptsMachine.tree.WellFormed := by
    have hfile : (Node.file .empty 0o644).WellFormed := .leaf rfl
    have hlink (target : Path) : (Node.link target).WellFormed := .leaf rfl
    refine .directory ⟨by decide, by simp [Path.IsWord]⟩ ?_
    simp only [List.forall_mem_cons, hfile, hlink, true_and]
    refine ⟨?_, ?_, List.forall_mem_nil _⟩
    · exact .directory ⟨by decide, by simp [Path.IsWord]⟩ (by simp [hfile])
    · exact .directory ⟨by decide, by simp [Path.IsWord]⟩ (by simp [hfile])
  have hscripts : isScript "c.fish" = true ∧ isScript "b.fish" = true ∧
      isScript "notes" = false ∧ isScript "hook.fish" = true := by decide
  have hroot : ofPath scriptsMachine ⟨"/"⟩ = [⟨"/a/c.fish"⟩, ⟨"/b.fish"⟩] := by
    show under ⟨"/"⟩ "" scriptsMachine.tree = _
    simp [scriptsMachine, under, branches, isHidden, hscripts, List.mergeSort,
      List.MergeSort.Internal.splitInTwo, Path.join, Path.isAbsolute]
  have hhidden : ofPath scriptsMachine ⟨"/.git"⟩ = [⟨"/.git/hook.fish"⟩] := by
    show under ⟨"/.git"⟩ "" (.dir [("hook.fish", .file .empty 0o644)]) = _
    simp [under, branches, isHidden, hscripts, Path.join, Path.isAbsolute]
  have hlinked : ofPath scriptsMachine ⟨"/again"⟩ = [⟨"/again/c.fish"⟩] := by
    show under ⟨"/again"⟩ ""
      (.dir [("notes", .file .empty 0o644), ("c.fish", .file .empty 0o644)]) = _
    simp [under, branches, isHidden, hscripts, List.mergeSort,
      List.MergeSort.Internal.splitInTwo, Path.join, Path.isAbsolute]
  have hmissing : ofPath scriptsMachine ⟨"notes"⟩ = [⟨"notes"⟩] := rfl
  obtain ⟨found, hfound, hfind⟩ := standsFor_find hdisk paths
  refine ⟨found, hfound, hfind.symm.trans ?_⟩
  simp only [paths, find, List.flatMap_cons, List.flatMap_nil, hroot, hhidden, hmissing, hlinked]
  rfl

end Scripts
end ScriptCheck
