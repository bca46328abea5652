import ScriptCheck.Proofs.Host.Process

/-! What is done with files looks at the files and the working directory alone. On machines that
have these in common, it comes to the same and they have them in common afterwards. -/

namespace ScriptCheck.Host

variable {h g k m : Host} {R : Host → Host → Prop}

/-- A relation between machines with the same files, seen from the same directory, which holds on
when these change in the same way. -/
structure KeepsDisk (R : Host → Host → Prop) : Prop where
  tree_eq : ∀ {h g : Host}, R h g → g.tree = h.tree
  workDir_eq : ∀ {h g : Host}, R h g → g.workDir = h.workDir
  setTree : ∀ {h g : Host}, R h g → ∀ tree, R (h.setTree tree) (g.setTree tree)

inductive SameMade (R : Host → Host → Prop) : Except IoError Host → Except IoError Host → Prop
  | ok {made other : Host} (hsame : R made other) : SameMade R (.ok made) (.ok other)
  | error (e : IoError) : SameMade R (.error e) (.error e)

def SameDone (R : Host → Host → Prop) (done other : Except IoError Unit × Host) : Prop :=
  done.1 = other.1 ∧ R done.2 other.2

namespace KeepsDisk

theorem locate_eq (hR : KeepsDisk R) (hg : R h g) (path : Path) :
    g.locate path = h.locate path := by
  unfold locate
  rw [hR.tree_eq hg, hR.workDir_eq hg]

theorem node?_eq (hR : KeepsDisk R) (hg : R h g) (path : Path) : g.node? path = h.node? path := by
  unfold node?
  rw [hR.locate_eq hg, hR.tree_eq hg]

theorem isDir_eq (hR : KeepsDisk R) (hg : R h g) (path : Path) : g.isDir path = h.isDir path := by
  unfold isDir
  rw [hR.node?_eq hg]

theorem hasPath_eq (hR : KeepsDisk R) (hg : R h g) (path : Path) :
    g.hasPath path = h.hasPath path := by
  unfold hasPath
  rw [hR.node?_eq hg]

theorem writeText (hR : KeepsDisk R) (hg : R h g) (path : Path) (text : String) :
    SameMade R (h.writeText path text) (g.writeText path text) := by
  unfold Host.writeText
  rw [hR.locate_eq hg, hR.tree_eq hg, hR.isDir_eq hg]
  cases h.locate path with
  | error e => cases e <;> exact .error _
  | ok place =>
    simp only [bind, Except.bind]
    cases h.tree.at? place with
    | none => exact .ok (hR.setTree hg _)
    | some node =>
      cases node with
      | dir entries => exact .error _
      | _ => exact .ok (hR.setTree hg _)

theorem makeDir (hR : KeepsDisk R) (hg : R h g) (path : Path) :
    SameMade R (h.makeDir path) (g.makeDir path) := by
  unfold Host.makeDir
  simp only [hR.tree_eq hg, hR.workDir_eq hg]
  cases h.tree.locate h.workDir _ false with
  | error e => exact .error e
  | ok place =>
    simp only [bind, Except.bind]
    cases h.tree.at? place with
    | none => exact .ok (hR.setTree hg _)
    | some node => exact .error _

theorem orThere (hR : KeepsDisk R) (hg : R h g) (path : Path) (e : IoError) :
    SameDone R (if h.isDir path then (.ok (), h) else (.error e, h))
      (if g.isDir path then (.ok (), g) else (.error e, g)) := by
  rw [hR.isDir_eq hg]
  split <;> exact ⟨rfl, hg⟩

theorem makeDirs (hR : KeepsDisk R) (hg : R h g) (fuel : Nat) (path : Path) :
    SameDone R (h.makeDirs fuel path) (g.makeDirs fuel path) := by
  induction fuel generalizing path with
  | zero => exact ⟨rfl, hg⟩
  | succ fuel ih =>
    show SameDone R (if path.text = "" then _ else _) (if path.text = "" then _ else _)
    by_cases hempty : path.text = ""
    · rw [if_pos hempty, if_pos hempty]
      exact ⟨rfl, hg⟩
    · rw [if_neg hempty, if_neg hempty]
      have hmade := hR.makeDir hg path
      generalize h.makeDir path = made, g.makeDir path = other at hmade ⊢
      rcases hmade with hmade | e
      · exact ⟨rfl, hmade⟩
      cases e with
      | notFound =>
        simp only
        cases path.parent? with
        | none => exact ⟨rfl, hg⟩
        | some parent =>
          have hbelow := ih parent
          simp only
          generalize h.makeDirs fuel parent = below, g.makeDirs fuel parent = beside at hbelow ⊢
          obtain ⟨made, k⟩ := below
          obtain ⟨_, m⟩ := beside
          obtain ⟨rfl, hbelow⟩ := hbelow
          cases made with
          | error e => exact ⟨rfl, hbelow⟩
          | ok done =>
            have hlast := hR.makeDir hbelow path
            simp only at hlast ⊢
            generalize k.makeDir path = last, m.makeDir path = beside at hlast ⊢
            rcases hlast with hlast | e
            · exact ⟨rfl, hlast⟩
            · exact hR.orThere hbelow path e
      | _ => exact hR.orThere hg path _

theorem makeDirAll (hR : KeepsDisk R) (hg : R h g) (path : Path) :
    SameDone R (h.makeDirAll path) (g.makeDirAll path) := hR.makeDirs hg _ path

end KeepsDisk
end ScriptCheck.Host
