import Mathlib.Data.List.Pairwise
import ScriptCheck.Proofs.Tool.Formatter

/-! Files that are fixed one after another. What is written to one of them makes no difference to
the formatter or to any other file, so each comes to what it would have come to alone. -/

namespace ScriptCheck.Formatter

variable {executable root file : Path} {timeoutMs : Option Nat} {h g : Host} {done : List Path}
  {before after : String} {place : Place}

theorem formed_eq (hg : h.SameLayout g) (source : String) :
    formed executable timeoutMs g source = formed executable timeoutMs h source := by
  unfold formed
  rw [Invocation.answer_eq _ hg]

theorem change?_congr (hg : h.SameLayout g)
    (hread : g.readText (root.join file) = h.readText (root.join file)) :
    change? executable timeoutMs root g file = change? executable timeoutMs root h file := by
  unfold change?
  simp only [hread, formed_eq hg]

theorem filePlace?_of_change
    (hchange : change? executable timeoutMs root h file = .ok (some (before, after)))
    (hplace : h.locate (root.join file) = .ok place) :
    h.filePlace? (root.join file) = some place := by
  obtain ⟨hread, -, -⟩ := change?_eq_ok_some_iff.mp hchange
  obtain ⟨q, node, hq, hnode, hdir⟩ := Host.exists_node_of_readText hread
  rw [hplace, Except.ok.injEq] at hq
  subst hq
  exact Host.filePlace?_of_node hplace hnode hdir

theorem exists_file_of_change
    (hchange : change? executable timeoutMs root h file = .ok (some (before, after)))
    (hordinary : h.isOrdinary (root.join file) = true) :
    ∃ place content mode, h.locate (root.join file) = .ok place ∧
      h.tree.at? place = some (.file content mode) := by
  obtain ⟨hread, -, -⟩ := change?_eq_ok_some_iff.mp hchange
  obtain ⟨place, node, hplace, hnode, hdir⟩ := Host.exists_node_of_readText hread
  obtain ⟨content, mode, rfl⟩ := Host.exists_file_of_isOrdinary hordinary hplace hnode hdir
  exact ⟨place, content, mode, hplace, hnode⟩

/-- The machine `g` is `h` with each file of `done` that was to change written over. -/
structure Rewritten (executable : Path) (timeoutMs : Option Nat) (root : Path) (h : Host)
    (done : List Path) (g : Host) : Prop where
  layout : h.SameLayout g
  written : ∀ file ∈ done, ∀ before after,
    change? executable timeoutMs root h file = .ok (some (before, after)) →
      g.readBytes (root.join file) = .ok after.toUTF8
  kept : ∀ place, (∀ file ∈ done, ∀ change,
    change? executable timeoutMs root h file = .ok (some change) →
      h.locate (root.join file) ≠ .ok place) →
    (g.tree.at? place).map Node.bare = (h.tree.at? place).map Node.bare

def Apart (root : Path) (h : Host) (a b : Path) : Prop :=
  ∀ p, h.filePlace? (root.join a) = some p → ∀ q, h.filePlace? (root.join b) = some q → p ≠ q

instance (root : Path) (h : Host) : Std.Symm (Apart root h) where
  symm _ _ hapart p hp q hq := (hapart q hq p hp).symm

namespace Rewritten

theorem refl (h : Host) : Rewritten executable timeoutMs root h [] h where
  layout := .refl h
  written := fun _ hfile => nomatch hfile
  kept := fun _ _ => rfl

theorem alike {t : Host} (hdone : Rewritten executable timeoutMs root h done g) (ht : g.Alike t) :
    Rewritten executable timeoutMs root h done t where
  layout := hdone.layout.trans ht.sameLayout
  written := by
    intro file hfile before after hchange
    rw [← hdone.written file hfile before after hchange]
    exact ht.sameLayout.readBytes_eq fun place _ => by rw [ht.tree_eq]
  kept := by
    intro place hplace
    rw [ht.tree_eq]
    exact hdone.kept place hplace

theorem kept_of_apart (hdone : Rewritten executable timeoutMs root h done g)
    (hapart : ∀ other ∈ done, ∀ change,
      change? executable timeoutMs root h other = .ok (some change) → Apart root h other file)
    (hplace : h.locate (root.join file) = .ok place) :
    (g.tree.at? place).map Node.bare = (h.tree.at? place).map Node.bare := by
  refine hdone.kept place fun other hother change hchange hsame => ?_
  have hotherPlace := filePlace?_of_change hchange hsame
  have hfilePlace := Host.filePlace?_congr (hsame.trans hplace.symm) ▸ hotherPlace
  exact hapart other hother change hchange place hotherPlace place hfilePlace rfl

theorem change?_eq (hdone : Rewritten executable timeoutMs root h done g)
    (hapart : ∀ other ∈ done, Apart root h other file) :
    change? executable timeoutMs root g file = change? executable timeoutMs root h file := by
  refine change?_congr hdone.layout (Host.readText_congr (hdone.layout.readBytes_eq ?_))
  exact fun place hplace => hdone.kept_of_apart (fun other hother _ _ => hapart other hother) hplace

theorem pass (hdone : Rewritten executable timeoutMs root h done g)
    (hpass : ∀ change, change? executable timeoutMs root h file ≠ .ok (some change)) :
    Rewritten executable timeoutMs root h (done ++ [file]) g where
  layout := hdone.layout
  written := by
    intro other hother before after hchange
    rcases List.mem_append.mp hother with hother | hother
    · exact hdone.written other hother before after hchange
    · rw [List.mem_singleton.mp hother] at hchange
      exact absurd hchange (hpass _)
  kept := fun place hplace => hdone.kept place fun other hother =>
    hplace other (List.mem_append_left _ hother)

theorem write {content : ByteArray} {mode : Nat}
    (hdone : Rewritten executable timeoutMs root h done g)
    (hapart : ∀ other ∈ done, Apart root h other file)
    (hchange : change? executable timeoutMs root h file = .ok (some (before, after)))
    (hplace : h.locate (root.join file) = .ok place)
    (hat : g.tree.at? place = some (.file content mode)) :
    Rewritten executable timeoutMs root h (done ++ [file])
      (g.setTree (g.tree.put place (.file after.toUTF8 mode))) := by
  have hstep : g.SameLayout (g.setTree (g.tree.put place (.file after.toUTF8 mode))) :=
    ⟨Node.sameFrame_put hat, rfl, rfl⟩
  have hlayout := hdone.layout.trans hstep
  refine ⟨hlayout, ?_, ?_⟩
  · intro other hother first last hotherChange
    rcases List.mem_append.mp hother with hmem | hmem
    · rw [← hdone.written other hmem first last hotherChange]
      refine hstep.readBytes_eq fun q hq => Node.at?_put_of_ne hat rfl rfl ?_
      rw [hdone.layout.locate_eq] at hq
      have hotherPlace := filePlace?_of_change hotherChange hq
      exact hapart other hmem q hotherPlace place (filePlace?_of_change hchange hplace)
    · rw [List.mem_singleton.mp hmem, hchange, Except.ok.injEq, Option.some.injEq,
        Prod.mk.injEq] at hotherChange
      rw [List.mem_singleton.mp hmem, ← hotherChange.2]
      exact Host.readBytes_of_file ((hlayout.locate_eq _).trans hplace) (Node.at?_put hat)
  · intro q hq
    have hne : q ≠ place := by
      rintro rfl
      exact hq file List.mem_concat_self _ hchange hplace
    refine (Node.at?_put_of_ne hat rfl rfl hne).trans (hdone.kept q fun other hother => ?_)
    exact hq other (List.mem_append_left _ hother)

theorem step (hdone : Rewritten executable timeoutMs root h done g)
    (hapart : ∀ other ∈ done, Apart root h other file)
    (hordinary : h.isOrdinary (root.join file) = true) :
    Rewritten executable timeoutMs root h (done ++ [file])
      (rewritten executable timeoutMs root g file) := by
  unfold rewritten
  rw [hdone.change?_eq hapart]
  cases hchange : change? executable timeoutMs root h file with
  | error e => exact hdone.pass fun change hsome => nomatch hchange.symm.trans hsome
  | ok change? =>
    cases change? with
    | none => exact hdone.pass fun change hsome => nomatch hchange.symm.trans hsome
    | some change =>
      obtain ⟨before, after⟩ := change
      obtain ⟨place, content, mode, hplace, hfile⟩ := exists_file_of_change hchange hordinary
      have hat : g.tree.at? place = some (.file content mode) := by
        refine Node.eq_file_of_map_bare ?_
        rw [hdone.kept_of_apart (fun other hother _ _ => hapart other hother) hplace, hfile]
        rfl
      have hwrite := Host.writeText_eq ((hdone.layout.locate_eq _).trans hplace) hat rfl after
      simp only [hwrite]
      exact hdone.write hapart hchange hplace hat

theorem foldl (hdone : Rewritten executable timeoutMs root h done g) {files : List Path}
    (report : Path → Except ToolError (Option (String × String)) → ToolResult)
    (hapart : (done ++ files).Pairwise (Apart root h))
    (hordinary : ∀ file ∈ files, h.isOrdinary (root.join file) = true) :
    resultsAlong (fun g file => report file (change? executable timeoutMs root g file))
        (rewritten executable timeoutMs root) g files =
      files.map (fun file => report file (change? executable timeoutMs root h file)) ∧
    Rewritten executable timeoutMs root h (done ++ files)
      (files.foldl (rewritten executable timeoutMs root) g) := by
  induction files generalizing done g with
  | nil => exact ⟨rfl, by rwa [List.append_nil]⟩
  | cons file files ih =>
    rw [List.append_cons] at hapart ⊢
    have hnew : ∀ other ∈ done, Apart root h other file := fun other hother =>
      (List.pairwise_append.mp (List.pairwise_append.mp hapart).1).2.2 other hother file
        (List.mem_singleton_self file)
    obtain ⟨hresults, hlast⟩ := ih (hdone.step hnew (hordinary file List.mem_cons_self)) hapart
      fun other hother => hordinary other (List.mem_cons_of_mem _ hother)
    refine ⟨?_, hlast⟩
    rw [resultsAlong, hdone.change?_eq hnew, hresults]
    rfl

theorem readBytes_of_unchanged (hdone : Rewritten executable timeoutMs root h done g)
    (hapart : done.Pairwise (Apart root h)) (hmem : file ∈ done)
    (hkeep : ∀ change, change? executable timeoutMs root h file ≠ .ok (some change)) :
    g.readBytes (root.join file) = h.readBytes (root.join file) := by
  refine hdone.layout.readBytes_eq fun place hplace => hdone.kept_of_apart ?_ hplace
  intro other hother change hchange
  have hne : other ≠ file := by
    rintro rfl
    exact hkeep change hchange
  exact hapart.forall hother hmem hne

theorem change?_settled (hdone : Rewritten executable timeoutMs root h done g)
    (hapart : done.Pairwise (Apart root h)) (hmem : file ∈ done)
    (hstable : ∀ source text, formed executable timeoutMs h source = .ok text →
      formed executable timeoutMs h text = .ok text) :
    change? executable timeoutMs root g file =
      (change? executable timeoutMs root h file).map fun _ => none := by
  have hsame (hkeep : ∀ change, change? executable timeoutMs root h file ≠ .ok (some change)) :
      change? executable timeoutMs root g file = change? executable timeoutMs root h file :=
    change?_congr hdone.layout
      (Host.readText_congr (hdone.readBytes_of_unchanged hapart hmem hkeep))
  cases hchange : change? executable timeoutMs root h file with
  | error e =>
    exact (hsame fun change hsome => nomatch hchange.symm.trans hsome).trans hchange
  | ok change? =>
    cases change? with
    | none =>
      exact (hsame fun change hsome => nomatch hchange.symm.trans hsome).trans hchange
    | some change =>
      obtain ⟨before, after⟩ := change
      have hread := Host.readText_of_readBytes (hdone.written file hmem before after hchange)
      have hformed := hstable before after (change?_eq_ok_some_iff.mp hchange).2.1
      exact change?_eq_ok_none hread ((formed_eq hdone.layout after).trans hformed)

end Rewritten
end ScriptCheck.Formatter
