import ScriptCheck.Proofs.Path
import ScriptCheck.Table

/-! Trees in which one file is written over. Nothing changes at any other place, and every path
leads where it led, because a path is found by names, directories and links alone. -/

namespace ScriptCheck.Node

variable {root old new child : Node} {entries : List (String × Node)} {name : String}
  {place q : Place}

def bare : Node → Node
  | dir _ => dir []
  | node => node

def frame : Node → Node
  | file _ mode => file .empty mode
  | dir _ => dir []
  | node => node

def SameFrame (root other : Node) : Prop :=
  ∀ place, (other.at? place).map frame = (root.at? place).map frame

theorem frame_bare (node : Node) : node.bare.frame = node.frame := by cases node <;> rfl

theorem isFile_bare (node : Node) : node.bare.isFile = node.isFile := by cases node <;> rfl

theorem map_frame_of_map_bare {x y : Option Node} (h : x.map bare = y.map bare) :
    x.map frame = y.map frame := by
  have hframe := congrArg (Option.map frame) h
  have hcomp : frame ∘ bare = frame := funext frame_bare
  rwa [Option.map_map, Option.map_map, hcomp] at hframe

theorem eq_file_of_map_bare {x : Option Node} {content : ByteArray} {mode : Nat}
    (h : x.map bare = some (file content mode)) : x = some (file content mode) := by
  cases x with
  | none => cases h
  | some node =>
    cases node with
    | dir entries => cases h
    | _ => exact h

namespace SameFrame

theorem refl (root : Node) : SameFrame root root := fun _ => rfl

theorem trans {third : Node} (h : SameFrame root old) (hthird : SameFrame old third) :
    SameFrame root third := fun place => (hthird place).trans (h place)

end SameFrame

theorem at?_nil (root : Node) : root.at? [] = some root := by cases root <;> rfl

theorem at?_dir_cons (entries : List (String × Node)) (name : String) (rest : List String) :
    (dir entries).at? (name :: rest) = (entries.lookup name).bind (·.at? rest) := by
  rw [at?]
  cases entries.lookup name <;> rfl

theorem at?_cons_of_not_isDir (hroot : root.isDir = false) (name : String) (rest : List String) :
    root.at? (name :: rest) = none := by
  cases root with
  | dir entries => cases hroot
  | _ => rfl

theorem at?_append (root : Node) (p q : Place) :
    root.at? (p ++ q) = (root.at? p).bind (·.at? q) := by
  induction p generalizing root with
  | nil => rw [List.nil_append, at?_nil, Option.bind_some]
  | cons name p ih =>
    cases hroot : root.isDir with
    | false =>
      rw [List.cons_append, at?_cons_of_not_isDir hroot, at?_cons_of_not_isDir hroot]
      rfl
    | true =>
      cases root with
      | dir entries =>
        rw [List.cons_append, at?_dir_cons, at?_dir_cons]
        cases entries.lookup name with
        | none => rfl
        | some child => exact ih child
      | _ => cases hroot

theorem at?_concat (hroot : root.at? place = some (dir entries)) (name : String) :
    root.at? (place ++ [name]) = entries.lookup name := by
  rw [at?_append, hroot, Option.bind_some, at?_dir_cons]
  cases entries.lookup name with
  | none => rfl
  | some child => exact at?_nil child

theorem exists_of_at?_cons {rest : List String} (hroot : root.at? (name :: rest) = some old) :
    ∃ entries child, root = dir entries ∧ entries.lookup name = some child ∧
      child.at? rest = some old := by
  cases root with
  | dir entries =>
    rw [at?_dir_cons] at hroot
    obtain ⟨child, hchild, hold⟩ := Option.bind_eq_some_iff.mp hroot
    exact ⟨entries, child, rfl, hchild, hold⟩
  | _ => cases hroot

theorem inductionOn {motive : Node → Prop} (node : Node)
    (leaf : ∀ node : Node, node.isDir = false → motive node)
    (dir : ∀ entries, (∀ entry ∈ entries, motive entry.2) → motive (.dir entries)) :
    motive node := by
  match node with
  | .file .. => exact leaf _ rfl
  | .program .. => exact leaf _ rfl
  | .link _ => exact leaf _ rfl
  | .dir entries => exact dir entries fun entry hentry => inductionOn entry.2 leaf dir
termination_by sizeOf node
decreasing_by
  have hlist := List.sizeOf_lt_of_mem hentry
  obtain ⟨name, child⟩ := entry
  simp only [Prod.mk.sizeOf_spec, Node.dir.sizeOf_spec] at hlist ⊢
  omega

structure WellNamed (entries : List (String × Node)) : Prop where
  distinct : (entries.map Prod.fst).Nodup
  words : ∀ entry ∈ entries, Path.IsWord entry.1

/-- A tree as it is on a disk. -/
def WellFormed (root : Node) : Prop :=
  ∀ place entries, root.at? place = some (dir entries) → WellNamed entries

namespace WellFormed

theorem wellNamed (hdir : (dir entries).WellFormed) : WellNamed entries := hdir [] entries rfl

theorem at_place (hroot : root.WellFormed) (hplace : root.at? place = some old) :
    old.WellFormed := by
  intro below entries hbelow
  refine hroot (place ++ below) entries ?_
  rw [at?_append, hplace]
  exact hbelow

theorem lookup_iff (hdir : (dir entries).WellFormed) :
    entries.lookup name = some child ↔ (name, child) ∈ entries :=
  Table.lookup_eq_some_iff hdir.wellNamed.distinct

theorem of_mem (hdir : (dir entries).WellFormed) {entry : String × Node}
    (hentry : entry ∈ entries) : entry.2.WellFormed := by
  have hplace : (dir entries).at? [entry.1] = some entry.2 := by
    rw [at?_dir_cons, hdir.lookup_iff.mpr hentry]
    exact at?_nil entry.2
  exact hdir.at_place hplace

theorem words (hroot : root.WellFormed) (hplace : root.at? place = some old) :
    ∀ name ∈ place, Path.IsWord name := by
  induction place generalizing root with
  | nil => exact List.forall_mem_nil _
  | cons name rest ih =>
    obtain ⟨entries, child, rfl, hchild, hrest⟩ := exists_of_at?_cons hplace
    have hmem := hroot.lookup_iff.mp hchild
    refine List.forall_mem_cons.mpr ⟨hroot.wellNamed.words _ hmem, ?_⟩
    exact ih (hroot.of_mem hmem) hrest

theorem leaf (hleaf : root.isDir = false) : root.WellFormed := by
  intro place entries hplace
  cases place with
  | nil =>
    rw [at?_nil, Option.some.injEq] at hplace
    rw [hplace] at hleaf
    cases hleaf
  | cons name rest =>
    rw [at?_cons_of_not_isDir hleaf] at hplace
    cases hplace

theorem directory (hnames : WellNamed entries) (hentries : ∀ entry ∈ entries, entry.2.WellFormed) :
    (dir entries).WellFormed := by
  intro place others hplace
  cases place with
  | nil =>
    cases hplace
    exact hnames
  | cons name rest =>
    obtain ⟨others', child, hdir, hchild, hrest⟩ := exists_of_at?_cons hplace
    cases hdir
    have hmem := (Table.lookup_eq_some_iff hnames.distinct).mp hchild
    exact hentries (name, child) hmem rest others hrest

end WellFormed

theorem lookup_putEntry (name : String) (node : Node) (entries : List (String × Node))
    (n : String) : (putEntry name node entries).lookup n =
      if n = name then some node else entries.lookup n := by
  induction entries with
  | nil =>
    rw [putEntry, Table.lookup_cons_ite]
  | cons e entries ih =>
    obtain ⟨m, other⟩ := e
    rw [putEntry]
    by_cases hm : m = name
    · rw [if_pos hm, Table.lookup_cons_ite, Table.lookup_cons_ite]
      by_cases hn : n = name <;> simp [hn, hm]
    · rw [if_neg hm, Table.lookup_cons_ite, ih, Table.lookup_cons_ite]
      by_cases hn : n = name
      · simp [hn, Ne.symm hm]
      · simp [hn]

theorem put_nil (root new : Node) : root.put [] new = new := by cases root <;> rfl

theorem put_cons (hchild : entries.lookup name = some child) (rest : List String) (new : Node) :
    (dir entries).put (name :: rest) new = dir (putEntry name (child.put rest new) entries) := by
  cases rest with
  | nil =>
    rw [put_nil]
    rfl
  | cons n rest => simp only [put, hchild]

theorem at?_put (hold : root.at? place = some old) : (root.put place new).at? place = some new := by
  induction place generalizing root with
  | nil => rw [put_nil, at?_nil]
  | cons name rest ih =>
    obtain ⟨entries, child, rfl, hchild, hrest⟩ := exists_of_at?_cons hold
    rw [put_cons hchild, at?_dir_cons, lookup_putEntry, if_pos rfl, Option.bind_some, ih hrest]

theorem at?_put_of_ne (hold : root.at? place = some old) (hfile : old.isDir = false)
    (hnew : new.isDir = false) (hq : q ≠ place) :
    ((root.put place new).at? q).map bare = (root.at? q).map bare := by
  induction place generalizing root q with
  | nil =>
    rw [at?_nil, Option.some.injEq] at hold
    obtain ⟨n, q, rfl⟩ := List.exists_cons_of_ne_nil hq
    rw [put_nil, at?_cons_of_not_isDir hnew, hold, at?_cons_of_not_isDir hfile]
  | cons name rest ih =>
    obtain ⟨entries, child, rfl, hchild, hrest⟩ := exists_of_at?_cons hold
    rw [put_cons hchild]
    cases q with
    | nil => rfl
    | cons n q =>
      rw [at?_dir_cons, at?_dir_cons, lookup_putEntry]
      by_cases hn : n = name
      · subst hn
        have hne : q ≠ rest := fun heq => hq (heq ▸ rfl)
        rw [if_pos rfl, hchild]
        exact ih hrest hne
      · rw [if_neg hn]

theorem sameFrame_put {content other : ByteArray} {mode : Nat}
    (hold : root.at? place = some (file content mode)) :
    SameFrame root (root.put place (file other mode)) := by
  intro q
  by_cases hq : q = place
  · subst hq
    rw [at?_put hold, hold]
    rfl
  · exact map_frame_of_map_bare (at?_put_of_ne hold rfl rfl hq)

theorem walkNames_cons (root : Node) (follow : Bool)
    (jump : Place → List String → Except IoError Place) (here : Place) (name : String)
    (rest : List String) :
    root.walkNames follow jump here (name :: rest) =
      match (root.at? here).map frame with
      | some (dir _) =>
        if name = "." then root.walkNames follow jump here rest
        else if name = ".." then root.walkNames follow jump here.dropLast rest
        else if 255 < name.utf8ByteSize then .error .nameTooLong
        else match (root.at? (here ++ [name])).map frame with
          | none => if rest.isEmpty then .ok (here ++ [name]) else .error .notFound
          | some (link target) =>
            if rest.isEmpty && !follow then .ok (here ++ [name])
            else jump (if target.isAbsolute then [] else here) (target.names ++ rest)
          | some _ => root.walkNames follow jump (here ++ [name]) rest
      | _ => .error .notDirectory := by
  rw [walkNames]
  cases hhere : root.at? here with
  | none => rfl
  | some node =>
    cases node with
    | dir entries =>
      simp only [at?_concat hhere, Option.map_some, frame]
      cases entries.lookup name with
      | none => rfl
      | some child => cases child <;> rfl
    | _ => rfl

namespace SameFrame

variable {other : Node} {follow : Bool}

theorem walkNames_eq (h : SameFrame root other)
    {jump jump' : Place → List String → Except IoError Place}
    (hjump : ∀ here names, jump' here names = jump here names) (here : Place)
    (names : List String) :
    other.walkNames follow jump' here names = root.walkNames follow jump here names := by
  induction names generalizing here with
  | nil => rfl
  | cons name rest ih => simp only [walkNames_cons, h here, h (here ++ [name]), ih, hjump]

theorem walk_eq (h : SameFrame root other) (links : Nat) (here : Place) (names : List String) :
    other.walk follow links here names = root.walk follow links here names := by
  induction links generalizing here names with
  | zero => exact h.walkNames_eq (fun _ _ => rfl) here names
  | succ links ih => exact h.walkNames_eq ih here names

theorem locate_eq (h : SameFrame root other) (from_ : Place) (path : Path) :
    other.locate from_ path follow = root.locate from_ path follow := by
  unfold locate
  simp only [h.walk_eq]

end SameFrame
end ScriptCheck.Node
