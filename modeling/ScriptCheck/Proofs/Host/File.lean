import ScriptCheck.Proofs.Host.Process

/-! Files that are read and written. What a file holds depends on what is at its place, and a
file that can be read can be written over. -/

namespace ScriptCheck

variable {h g : Host} {path : Path} {place : Place} {node : Node} {text : String}

theorem Text.decode?_toUTF8 (text : String) : Text.decode? text.toUTF8 = some text :=
  dif_pos text.isValidUTF8

def Node.holding (text : String) : Node → Node
  | file _ mode => file text.toUTF8 mode
  | _ => file text.toUTF8 0o644

namespace Host

def isOrdinary (h : Host) (path : Path) : Bool :=
  match h.node? path with
  | .ok (.file ..) => true
  | .ok (.dir _) => true
  | .ok _ => false
  | .error _ => true

def filePlace? (h : Host) (path : Path) : Option Place :=
  match h.locate path with
  | .ok place => if (h.tree.at? place).any (!·.isDir) then some place else none
  | .error _ => none

theorem filePlace?_of_node (hplace : h.locate path = .ok place)
    (hnode : h.tree.at? place = some node) (hdir : node.isDir = false) :
    h.filePlace? path = some place := by
  unfold filePlace?
  simp only [hplace, hnode, Option.any_some, hdir, Bool.not_false, if_true]

theorem filePlace?_congr {other : Path} (hsame : h.locate path = h.locate other) :
    h.filePlace? path = h.filePlace? other := by
  unfold filePlace?
  rw [hsame]

theorem node?_eq_ok_iff : h.node? path = .ok node ↔
    ∃ place, h.locate path = .ok place ∧ h.tree.at? place = some node := by
  unfold node?
  cases h.locate path with
  | error e => simp [bind, Except.bind]
  | ok place =>
    cases hnode : h.tree.at? place <;> simp [bind, Except.bind, pure, Except.pure, throw, hnode]

theorem readBytes_eq (h : Host) (path : Path) :
    h.readBytes path = (h.locate path).bind fun place =>
      match (h.tree.at? place).map Node.bare with
      | some (.file content _) => .ok content
      | some (.dir _) => .error .isDirectory
      | some _ => .ok .empty
      | none => .error .notFound := by
  unfold readBytes node?
  cases h.locate path with
  | error e => rfl
  | ok place =>
    simp only [bind, Except.bind]
    cases h.tree.at? place with
    | none => rfl
    | some node => cases node <;> rfl

theorem SameLayout.readBytes_eq (hg : h.SameLayout g)
    (hbare : ∀ place, h.locate path = .ok place →
      (g.tree.at? place).map Node.bare = (h.tree.at? place).map Node.bare) :
    g.readBytes path = h.readBytes path := by
  rw [Host.readBytes_eq, Host.readBytes_eq, hg.locate_eq]
  cases hplace : h.locate path with
  | error e => rfl
  | ok place => simp only [Except.bind, hbare place hplace]

theorem readText_congr (hbytes : g.readBytes path = h.readBytes path) :
    g.readText path = h.readText path := by
  unfold readText
  rw [hbytes]

theorem readText_eq_of_locate {other : Path} (hsame : h.locate path = h.locate other) :
    h.readText path = h.readText other := by
  unfold readText
  rw [readBytes_eq, readBytes_eq, hsame]

theorem readText_of_readBytes (hbytes : h.readBytes path = .ok text.toUTF8) :
    h.readText path = .ok text := by
  unfold readText
  rw [hbytes]
  simp only [bind, Except.bind, Text.decode?_toUTF8]
  rfl

theorem readBytes_of_file {content : ByteArray} {mode : Nat} (hplace : h.locate path = .ok place)
    (hfile : h.tree.at? place = some (.file content mode)) : h.readBytes path = .ok content := by
  rw [readBytes_eq, hplace]
  simp only [Except.bind, hfile]
  rfl

theorem exists_node_of_readText (hread : h.readText path = .ok text) :
    ∃ place node, h.locate path = .ok place ∧ h.tree.at? place = some node ∧
      node.isDir = false := by
  unfold readText readBytes at hread
  cases hnode : h.node? path with
  | error e =>
    rw [hnode] at hread
    cases hread
  | ok node =>
    obtain ⟨place, hplace, hat⟩ := node?_eq_ok_iff.mp hnode
    refine ⟨place, node, hplace, hat, ?_⟩
    cases node with
    | dir entries =>
      rw [hnode] at hread
      cases hread
    | _ => rfl

theorem exists_file_of_isOrdinary (hordinary : h.isOrdinary path = true)
    (hplace : h.locate path = .ok place) (hnode : h.tree.at? place = some node)
    (hdir : node.isDir = false) : ∃ content mode, node = .file content mode := by
  unfold isOrdinary at hordinary
  rw [node?_eq_ok_iff.mpr ⟨place, hplace, hnode⟩] at hordinary
  cases node with
  | file content mode => exact ⟨content, mode, rfl⟩
  | dir entries => cases hdir
  | _ => cases hordinary

theorem writeText_eq (hplace : h.locate path = .ok place) (hnode : h.tree.at? place = some node)
    (hdir : node.isDir = false) (text : String) :
    h.writeText path text = .ok (h.setTree (h.tree.put place (node.holding text))) := by
  unfold writeText
  rw [hplace]
  cases node with
  | dir entries => cases hdir
  | _ => simp only [bind, Except.bind, pure, Except.pure, hnode, Node.holding]

end Host
end ScriptCheck
