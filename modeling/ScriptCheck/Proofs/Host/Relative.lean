import ScriptCheck.Proofs.Host.Process
import ScriptCheck.Proofs.Path

/-! Relative paths, and the absolute ones that they stand for in the working directory. The absolute
one goes to the working directory first and leaves out the dots, so it leads to the same place. -/

namespace ScriptCheck

namespace Node

variable {root : Node} {follow : Bool}

def IsEntryName (name : String) : Prop := name ≠ "." ∧ name ≠ ".." ∧ name.utf8ByteSize ≤ 255

theorem exists_dir_of_at? {child : Node} {place : Place} {entries : List (String × Node)}
    (hchild : child.at? place = some (dir entries)) : ∃ entries, child = dir entries := by
  cases place with
  | nil =>
    rw [at?_nil, Option.some.injEq] at hchild
    exact ⟨entries, hchild⟩
  | cons name rest =>
    obtain ⟨entries, _, hdir, -⟩ := exists_of_at?_cons hchild
    exact ⟨entries, hdir⟩

theorem walkNames_append {jump : Place → List String → Except IoError Place} {here : Place}
    {names : List String} {entries : List (String × Node)}
    (hnames : ∀ name ∈ names, IsEntryName name)
    (hdir : root.at? (here ++ names) = some (dir entries)) (rest : List String) :
    root.walkNames follow jump here (names ++ rest) =
      root.walkNames follow jump (here ++ names) rest := by
  induction names generalizing here with
  | nil => rw [List.nil_append, List.append_nil]
  | cons name names ih =>
    obtain ⟨hdot, hup, hlong⟩ := hnames name List.mem_cons_self
    have hbelow := hdir
    rw [at?_append] at hbelow
    obtain ⟨above, habove, hbelow⟩ := Option.bind_eq_some_iff.mp hbelow
    obtain ⟨_, child, rfl, hchild, hrest⟩ := exists_of_at?_cons hbelow
    obtain ⟨_, rfl⟩ := exists_dir_of_at? hrest
    rw [List.append_cons] at hdir ⊢
    rw [← ih (fun name hname => hnames name (List.mem_cons_of_mem _ hname)) hdir,
      List.cons_append, walkNames, habove]
    simp only [if_neg hdot, if_neg hup, if_neg (Nat.not_lt.mpr hlong), hchild]

theorem isEmpty_filter_ne_dot {names : List String} (hlast : names.getLast? ≠ some ".") :
    (names.filter (· ≠ ".")).isEmpty = names.isEmpty := by
  rcases List.eq_nil_or_concat names with rfl | ⟨front, name, rfl⟩
  · rfl
  · have hname : name ≠ "." := by simpa using hlast
    rw [Bool.eq_iff_iff]
    simp [hname]

theorem walkNames_filter {jump : Place → List String → Except IoError Place}
    (hjump : ∀ (here : Place) (names rest : List String), rest.getLast? ≠ some "." →
      jump here (names ++ rest) = jump here (names ++ rest.filter (· ≠ ".")))
    (here : Place) {names : List String} (hlast : names.getLast? ≠ some ".") :
    root.walkNames follow jump here names =
      root.walkNames follow jump here (names.filter (· ≠ ".")) := by
  induction names generalizing here with
  | nil => rfl
  | cons name rest ih =>
    have hrest : rest.getLast? ≠ some "." := by
      cases rest with
      | nil => nofun
      | cons next rest => rwa [List.getLast?_cons_cons] at hlast
    by_cases hname : name = "."
    · subst hname
      rw [List.filter_cons_of_neg (by simp), ← ih here hrest]
      cases rest with
      | nil => exact absurd rfl hlast
      | cons next rest =>
        cases hhere : root.at? here with
        | none => rw [walkNames, walkNames, hhere]
        | some node =>
          cases node with
          | dir entries =>
            rw [walkNames, hhere]
            exact if_pos rfl
          | _ => rw [walkNames, walkNames, hhere]
    · rw [List.filter_cons_of_pos (by simpa using hname), walkNames_cons, walkNames_cons]
      simp only [isEmpty_filter_ne_dot hrest, ← ih _ hrest, ← hjump _ _ _ hrest]

theorem walk_filter (links : Nat) (here : Place) {names : List String}
    (hlast : names.getLast? ≠ some ".") :
    root.walk follow links here names = root.walk follow links here (names.filter (· ≠ ".")) := by
  induction links generalizing here names with
  | zero => exact walkNames_filter (fun _ _ _ _ => rfl) here hlast
  | succ links ih =>
    refine walkNames_filter (fun here names rest hrest => ?_) here hlast
    have hempty := isEmpty_filter_ne_dot hrest
    cases rest with
    | nil => rfl
    | cons next rest =>
      have hfull : (names ++ next :: rest).getLast? ≠ some "." := by
        rwa [List.getLast?_append_of_ne_nil _ (List.cons_ne_nil _ _)]
      have hkept : (names ++ (next :: rest).filter (· ≠ ".")).getLast? ≠ some "." := by
        rw [List.getLast?_append_of_ne_nil _ (by rintro hnil; rw [hnil] at hempty; cases hempty)]
        exact fun hdot => absurd (List.mem_of_getLast? hdot) (by simp)
      rw [ih here hfull, ih here hkept, List.filter_append, List.filter_append, List.filter_filter]
      simp only [Bool.and_self]

theorem walk_append {links : Nat} (here : Place) {names : List String}
    {entries : List (String × Node)} (hnames : ∀ name ∈ names, IsEntryName name)
    (hdir : root.at? (here ++ names) = some (dir entries)) (rest : List String) :
    root.walk follow links here (names ++ rest) = root.walk follow links (here ++ names) rest := by
  cases links with
  | zero => exact walkNames_append hnames hdir rest
  | succ links => exact walkNames_append hnames hdir rest

end Node

namespace Host

variable {h : Host} {path : Path}

structure Standing (h : Host) : Prop where
  dir : ∃ entries, h.tree.at? h.workDir = some (.dir entries)
  names : ∀ name ∈ h.workDir, Path.IsWord name ∧ Node.IsEntryName name

theorem absolute_eq (hstanding : h.Standing) (hpath : path.IsRelative) :
    h.absolute path = Path.rooted (h.workDir ++ path.words) := by
  unfold absolute
  rw [if_neg (by simp [hpath.notAbsolute]), Path.filter_components hpath.notAbsolute,
    Path.ofComponents_map]
  exact Path.join_rooted (fun name hname => (hstanding.names name hname).1) hpath.words_ne_nil
    fun _ => Path.isWord_of_mem_words

theorem programAt_absolute (hstanding : h.Standing) (hpath : path.IsRelative)
    (hsound : (h.absolute path).defect? = none) :
    h.programAt h.workDir (h.absolute path) = h.programAt h.workDir path := by
  obtain ⟨entries, hdir⟩ := hstanding.dir
  have hwords : ∀ word ∈ h.workDir ++ path.words, Path.IsWord word := by
    intro word hword
    rcases List.mem_append.mp hword with hfront | hback
    · exact (hstanding.names word hfront).1
    · exact Path.isWord_of_mem_words hback
  have hnames : (h.absolute path).names = h.workDir ++ path.words := by
    rw [absolute_eq hstanding hpath]
    exact Path.names_rooted (List.append_ne_nil_of_right_ne_nil _ hpath.words_ne_nil) hwords
  have habsolute : (h.absolute path).isAbsolute = true := by
    rw [absolute_eq hstanding hpath]
    simp [Path.rooted, Path.isAbsolute]
  have hentries : ∀ name ∈ h.workDir, Node.IsEntryName name :=
    fun name hname => (hstanding.names name hname).2
  have hlocate : h.tree.locate h.workDir (h.absolute path) true =
      h.tree.locate h.workDir path true := by
    unfold Node.locate
    rw [hsound, hpath.sound, habsolute, hpath.notAbsolute, hnames]
    simp only [if_true, if_neg Bool.false_ne_true]
    rw [Node.walk_append [] hentries hdir, Node.walk_filter 40 _ hpath.file,
      Path.filter_names hpath.file, List.nil_append]
  unfold programAt
  rw [hlocate]

end Host
end ScriptCheck
