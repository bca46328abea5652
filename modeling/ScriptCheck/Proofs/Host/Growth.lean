import ScriptCheck.Proofs.Host.Relative

/-! Trees that gain directories and files. Nothing changes at any other place, and whatever a path
led to it still leads to, though it may now lead somewhere where it led nowhere. -/

namespace ScriptCheck.Node

variable {root other new node : Node} {entries : List (String × Node)} {follow : Bool}
  {links : Nat} {here place front q : Place} {name : String} {names rest : List String}
  {target : Path}

def isLink : Node → Bool
  | link _ => true
  | _ => false

theorem isFile_of_not_isDir (hdir : node.isDir = false) (hlink : node.isLink = false) :
    node.isFile = true := by
  cases node with
  | dir entries => cases hdir
  | link target => cases hlink
  | _ => rfl

theorem isLink_bare (node : Node) : node.bare.isLink = node.isLink := by cases node <;> rfl

theorem exists_dir_of_bare (hnode : node.bare = dir []) : ∃ entries, node = dir entries := by
  cases node with
  | dir entries => exact ⟨entries, rfl⟩
  | _ => cases hnode

theorem eq_link_of_bare (hnode : node.bare = link target) : node = link target := by
  cases node with
  | link other => exact hnode
  | _ => cases hnode

mutual
def targets : Node → List Path
  | link target => [target]
  | dir entries => entryTargets entries
  | _ => []

def entryTargets : List (String × Node) → List Path
  | [] => []
  | (_, child) :: rest => child.targets ++ entryTargets rest
end

theorem mem_entryTargets {child : Node} (hchild : entries.lookup name = some child)
    (htarget : target ∈ child.targets) : target ∈ entryTargets entries := by
  induction entries with
  | nil => cases hchild
  | cons entry entries ih =>
    obtain ⟨n, first⟩ := entry
    rw [List.lookup_cons] at hchild
    rw [entryTargets, List.mem_append]
    split at hchild
    · exact .inl (Option.some.inj hchild ▸ htarget)
    · exact .inr (ih hchild)

theorem mem_targets_of_at? (hlink : root.at? place = some (link target)) :
    target ∈ root.targets := by
  induction place generalizing root with
  | nil =>
    rw [at?_nil] at hlink
    rw [Option.some.inj hlink, targets]
    exact List.mem_singleton_self target
  | cons name rest ih =>
    obtain ⟨entries, child, rfl, hchild, hrest⟩ := exists_of_at?_cons hlink
    rw [targets]
    exact mem_entryTargets hchild (ih hrest)

/-- Names lead from a directory to a place, over at most so many links. -/
inductive Leads (root : Node) (follow : Bool) (place : Place) : Nat → Place → List String → Prop
  | arrived {links : Nat} : Leads root follow place links place []
  | stay {links : Nat} {here : Place} {rest : List String} {entries : List (String × Node)}
      (hdir : root.at? here = some (dir entries))
      (hrest : Leads root follow place links here rest) :
      Leads root follow place links here ("." :: rest)
  | up {links : Nat} {here : Place} {rest : List String} {entries : List (String × Node)}
      (hdir : root.at? here = some (dir entries))
      (hrest : Leads root follow place links here.dropLast rest) :
      Leads root follow place links here (".." :: rest)
  | missing {links : Nat} {here : Place} {name : String} {entries : List (String × Node)}
      (hdir : root.at? here = some (dir entries)) (hname : IsEntryName name)
      (hnone : root.at? (here ++ [name]) = none) (hplace : here ++ [name] = place) :
      Leads root follow place links here [name]
  | entry {links : Nat} {here : Place} {name : String} {rest : List String}
      {entries : List (String × Node)} {node : Node}
      (hdir : root.at? here = some (dir entries)) (hname : IsEntryName name)
      (hnode : root.at? (here ++ [name]) = some node) (hlink : node.isLink = false)
      (hrest : Leads root follow place links (here ++ [name]) rest) :
      Leads root follow place links here (name :: rest)
  | held {links : Nat} {here : Place} {name : String} {entries : List (String × Node)}
      {target : Path} (hdir : root.at? here = some (dir entries)) (hname : IsEntryName name)
      (hlink : root.at? (here ++ [name]) = some (link target)) (hfollow : follow = false)
      (hplace : here ++ [name] = place) : Leads root follow place links here [name]
  | followed {links : Nat} {here : Place} {name : String} {rest : List String}
      {entries : List (String × Node)} {target : Path}
      (hdir : root.at? here = some (dir entries)) (hname : IsEntryName name)
      (hlink : root.at? (here ++ [name]) = some (link target))
      (hmore : (rest.isEmpty && !follow) = false)
      (hrest : Leads root follow place links (if target.isAbsolute then [] else here)
        (target.names ++ rest)) : Leads root follow place (links + 1) here (name :: rest)

theorem walk_cons_dir (hdir : root.at? here = some (dir entries)) (name : String)
    (rest : List String) :
    root.walk follow links here (name :: rest) =
      if name = "." then root.walk follow links here rest
      else if name = ".." then root.walk follow links here.dropLast rest
      else if 255 < name.utf8ByteSize then .error .nameTooLong
      else match root.at? (here ++ [name]) with
        | none => if rest.isEmpty then .ok (here ++ [name]) else .error .notFound
        | some (link target) =>
          if rest.isEmpty && !follow then .ok (here ++ [name])
          else match links with
            | 0 => .error .tooManyLinks
            | fewer + 1 => root.walk follow fewer (if target.isAbsolute then [] else here)
                (target.names ++ rest)
        | some _ => root.walk follow links (here ++ [name]) rest := by
  rw [at?_concat hdir]
  cases links with
  | zero =>
    show root.walkNames follow _ here (name :: rest) = _
    rw [walkNames, hdir]
    rfl
  | succ fewer =>
    show root.walkNames follow _ here (name :: rest) = _
    rw [walkNames, hdir]
    rfl

theorem exists_dir_of_walk_cons (hwalk : root.walk follow links here (name :: rest) = .ok place) :
    ∃ entries, root.at? here = some (dir entries) := by
  have hnames {jump : Place → List String → Except IoError Place}
      (hwalk : root.walkNames follow jump here (name :: rest) = .ok place) :
      ∃ entries, root.at? here = some (dir entries) := by
    rw [walkNames] at hwalk
    split at hwalk
    · exact ⟨_, by assumption⟩
    · cases hwalk
  cases links <;> exact hnames hwalk

theorem walk_nil (root : Node) (follow : Bool) (links : Nat) (here : Place) :
    root.walk follow links here [] = .ok here := by cases links <;> rfl

theorem isLink_eq_false (hnode : ∀ target, node ≠ link target) : node.isLink = false := by
  cases node with
  | link target => exact absurd rfl (hnode target)
  | _ => rfl

theorem leads_of_walk_of_fewer (hfewer : ∀ fewer, links = fewer + 1 → ∀ here names,
      root.walk follow fewer here names = .ok place → Leads root follow place fewer here names)
    (hwalk : root.walk follow links here names = .ok place) :
    Leads root follow place links here names := by
  induction names generalizing here with
  | nil =>
    rw [walk_nil] at hwalk
    cases hwalk
    exact .arrived
  | cons name rest ih =>
    obtain ⟨entries, hdir⟩ := exists_dir_of_walk_cons hwalk
    rw [walk_cons_dir hdir] at hwalk
    by_cases hdot : name = "."
    · rw [if_pos hdot] at hwalk
      exact hdot ▸ .stay hdir (ih hwalk)
    by_cases hup : name = ".."
    · rw [if_neg hdot, if_pos hup] at hwalk
      exact hup ▸ .up hdir (ih hwalk)
    by_cases hlong : 255 < name.utf8ByteSize
    · rw [if_neg hdot, if_neg hup, if_pos hlong] at hwalk
      cases hwalk
    have hname : IsEntryName name := ⟨hdot, hup, Nat.not_lt.mp hlong⟩
    rw [if_neg hdot, if_neg hup, if_neg hlong] at hwalk
    split at hwalk
    next hnone =>
      cases rest with
      | nil => exact .missing hdir hname hnone (Except.ok.inj hwalk)
      | cons next rest => cases hwalk
    next target hlink =>
      cases hmore : rest.isEmpty && !follow with
      | true =>
        rw [if_pos hmore] at hwalk
        obtain ⟨hrest, hfollow⟩ := Bool.and_eq_true_iff.mp hmore
        obtain rfl := List.isEmpty_iff.mp hrest
        exact .held hdir hname hlink (by simpa using hfollow) (Except.ok.inj hwalk)
      | false =>
        rw [if_neg (by simp [hmore])] at hwalk
        cases links with
        | zero => cases hwalk
        | succ fewer => exact .followed hdir hname hlink hmore (hfewer fewer rfl _ _ hwalk)
    next node hnotlink hnode =>
      exact .entry hdir hname hnode (isLink_eq_false hnotlink) (ih hwalk)

theorem leads_of_walk (hwalk : root.walk follow links here names = .ok place) :
    Leads root follow place links here names := by
  induction links generalizing here names with
  | zero => exact leads_of_walk_of_fewer (fun fewer hzero => by cases hzero) hwalk
  | succ links ih =>
    refine leads_of_walk_of_fewer (fun fewer hsucc here names hfewer => ?_) hwalk
    cases hsucc
    exact ih hfewer

theorem IsEntryName.ite_eq {α : Type} (hname : IsEntryName name) (x y z w : α) :
    (if name = "." then x else if name = ".." then y
      else if 255 < name.utf8ByteSize then z else w) = w := by
  rw [if_neg hname.1, if_neg hname.2.1, if_neg (Nat.not_lt.mpr hname.2.2)]

theorem Leads.walk_eq (hleads : Leads root follow place links here names) :
    root.walk follow links here names = .ok place := by
  induction hleads with
  | arrived => exact walk_nil root follow _ _
  | stay hdir _ ih => rw [walk_cons_dir hdir, if_pos rfl, ih]
  | up hdir _ ih => rw [walk_cons_dir hdir, if_neg (by decide), if_pos rfl, ih]
  | missing hdir hname hnone hplace =>
    rw [walk_cons_dir hdir, hname.ite_eq, hnone, ← hplace]
    rfl
  | @entry links here name rest entries node hdir hname hnode hlink _ ih =>
    rw [walk_cons_dir hdir, hname.ite_eq, hnode]
    cases node with
    | link target => cases hlink
    | _ => exact ih
  | held hdir hname hlink hfollow hplace =>
    rw [walk_cons_dir hdir, hname.ite_eq, hlink, hfollow, ← hplace]
    rfl
  | followed hdir hname hlink hmore _ ih =>
    rw [walk_cons_dir hdir, hname.ite_eq, hlink]
    simp only [hmore]
    exact ih

def Lands (root : Node) (follow : Bool) (place : Place) : Prop :=
  (∃ node, root.at? place = some node ∧ (follow = true → node.isLink = false)) ∨
    root.at? place = none ∧ ∃ front name entries, place = front ++ [name] ∧
      root.at? front = some (dir entries)

theorem lands_of_dir (hdir : root.at? here = some (dir entries)) : Lands root follow here :=
  .inl ⟨dir entries, hdir, fun _ => rfl⟩

theorem exists_dir_above (hnode : root.at? (here ++ [name]) = some node) :
    ∃ entries, root.at? here = some (dir entries) := by
  rw [at?_append] at hnode
  obtain ⟨above, habove, hbelow⟩ := Option.bind_eq_some_iff.mp hnode
  obtain ⟨_, _, rfl, -⟩ := exists_of_at?_cons hbelow
  exact ⟨_, habove⟩

theorem exists_dir_dropLast (hdir : root.at? here = some (dir entries)) :
    ∃ entries, root.at? here.dropLast = some (dir entries) := by
  rcases List.eq_nil_or_concat here with rfl | ⟨front, name, rfl⟩
  · exact ⟨entries, hdir⟩
  · rw [List.concat_eq_append] at hdir ⊢
    rw [List.dropLast_concat]
    exact exists_dir_above hdir

theorem Leads.lands (hleads : Leads root follow place links here names)
    (hstart : names = [] → Lands root follow here) : Lands root follow place := by
  induction hleads with
  | arrived => exact hstart rfl
  | stay hdir _ ih => exact ih fun _ => lands_of_dir hdir
  | up hdir _ ih =>
    obtain ⟨_, habove⟩ := exists_dir_dropLast hdir
    exact ih fun _ => lands_of_dir habove
  | missing hdir hname hnone hplace =>
    subst hplace
    exact .inr ⟨hnone, _, _, _, rfl, hdir⟩
  | entry hdir hname hnode hlink _ ih => exact ih fun _ => .inl ⟨_, hnode, fun _ => hlink⟩
  | held hdir hname hlink hfollow hplace =>
    subst hplace
    exact .inl ⟨_, hlink, fun htrue => absurd (hfollow.symm.trans htrue) Bool.false_ne_true⟩
  | followed hdir hname hlink hmore _ ih =>
    refine ih fun _ => ?_
    split
    · obtain ⟨_, rfl⟩ := exists_dir_of_at? hdir
      exact lands_of_dir (at?_nil _)
    · exact lands_of_dir hdir

theorem Leads.onward (hleads : Leads root false place links here names)
    (hplace : ∀ node, root.at? place = some node → node.isLink = false) :
    Leads root true place links here names := by
  induction hleads with
  | arrived => exact .arrived
  | stay hdir _ ih => exact .stay hdir ih
  | up hdir _ ih => exact .up hdir ih
  | missing hdir hname hnone hhere => exact .missing hdir hname hnone hhere
  | entry hdir hname hnode hlink _ ih => exact .entry hdir hname hnode hlink ih
  | held hdir hname hlink hfollow hhere =>
    subst hhere
    cases hplace _ hlink
  | followed hdir hname hlink hmore _ ih =>
    exact .followed hdir hname hlink (Bool.and_false _) ih

/-- A tree that has the directories and links of another one, and no other links. -/
def KeepsWays (root other : Node) : Prop := ∀ place,
  (other.at? place).map frame = (root.at? place).map frame ∨
    (root.at? place).all isFile = true ∧
      ∀ node, other.at? place = some node → node.isLink = false

namespace KeepsWays

theorem dir (h : KeepsWays root other) (hdir : root.at? here = some (dir entries)) :
    ∃ entries, other.at? here = some (.dir entries) := by
  have hkept := h here
  rw [hdir] at hkept
  rcases hkept with hsame | ⟨hfile, -⟩
  · cases hnode : other.at? here with
    | none =>
      rw [hnode] at hsame
      cases hsame
    | some node =>
      rw [hnode] at hsame
      cases node with
      | dir entries => exact ⟨entries, rfl⟩
      | _ => cases hsame
  · cases hfile

theorem link (h : KeepsWays root other) (hlink : root.at? here = some (link target)) :
    other.at? here = some (.link target) := by
  have hkept := h here
  rw [hlink] at hkept
  rcases hkept with hsame | ⟨hfile, -⟩
  · cases hnode : other.at? here with
    | none =>
      rw [hnode] at hsame
      cases hsame
    | some node =>
      rw [hnode] at hsame
      cases node with
      | link other => exact hsame
      | _ => cases hsame
  · cases hfile

theorem isLink (h : KeepsWays root other)
    (hroot : ∀ node, root.at? here = some node → node.isLink = false)
    (hnode : other.at? here = some node) : node.isLink = false := by
  rcases h here with hsame | ⟨-, hlink⟩
  · rw [hnode] at hsame
    cases hold : root.at? here with
    | none =>
      rw [hold] at hsame
      cases hsame
    | some old =>
      rw [hold] at hsame
      have hframe : node.frame = old.frame := Option.some.inj hsame
      have hisLink (node : Node) : node.frame.isLink = node.isLink := by cases node <;> rfl
      rw [← hisLink, hframe, hisLink]
      exact hroot old hold
  · exact hlink node hnode

theorem leads (h : KeepsWays root other) (hleads : Leads root follow place links here names) :
    Leads other follow place links here names := by
  induction hleads with
  | arrived => exact .arrived
  | stay hdir _ ih =>
    obtain ⟨_, hkept⟩ := h.dir hdir
    exact .stay hkept ih
  | up hdir _ ih =>
    obtain ⟨_, hkept⟩ := h.dir hdir
    exact .up hkept ih
  | @missing links here name entries hdir hname hnone hplace =>
    obtain ⟨_, hkept⟩ := h.dir hdir
    cases hnode : other.at? (here ++ [name]) with
    | none => exact .missing hkept hname hnode hplace
    | some node =>
      have hlink := h.isLink (by simp [hnone]) hnode
      exact .entry hkept hname hnode hlink (hplace ▸ .arrived)
  | @entry links here name rest entries node hdir hname hold hlink hrest ih =>
    obtain ⟨_, hkept⟩ := h.dir hdir
    cases hnode : other.at? (here ++ [name]) with
    | none =>
      rcases h (here ++ [name]) with hsame | ⟨hfile, -⟩
      · rw [hnode, hold] at hsame
        cases hsame
      · rw [hold, Option.all_some] at hfile
        cases rest with
        | nil =>
          cases hrest
          exact .missing hkept hname hnode rfl
        | cons next rest =>
          obtain ⟨_, hbelow⟩ := exists_dir_of_walk_cons hrest.walk_eq
          rw [hold, Option.some.injEq] at hbelow
          subst hbelow
          cases hfile
    | some new =>
      have hnew := h.isLink (fun _ hnode => Option.some.inj (hold.symm.trans hnode) ▸ hlink) hnode
      exact .entry hkept hname hnode hnew ih
  | held hdir hname hlink hfollow hplace =>
    obtain ⟨_, hkept⟩ := h.dir hdir
    exact .held hkept hname (h.link hlink) hfollow hplace
  | followed hdir hname hlink hmore _ ih =>
    obtain ⟨_, hkept⟩ := h.dir hdir
    exact .followed hkept hname (h.link hlink) hmore ih

theorem locate (h : KeepsWays root other) {from_ : Place} {path : Path}
    (hplace : root.locate from_ path follow = .ok place) :
    other.locate from_ path follow = .ok place := by
  unfold Node.locate at hplace ⊢
  cases hdefect : path.defect? with
  | some e =>
    rw [hdefect] at hplace
    cases hplace
  | none =>
    rw [hdefect] at hplace
    exact (h.leads (leads_of_walk hplace)).walk_eq

end KeepsWays

theorem at?_put_entry (hfront : root.at? front = some (dir entries))
    (hname : entries.lookup name = none) (hnew : ∀ n rest, new.at? (n :: rest) = none) :
    (root.put (front ++ [name]) new).at? (front ++ [name]) = some new ∧
      ∀ q ≠ front ++ [name],
        ((root.put (front ++ [name]) new).at? q).map bare = (root.at? q).map bare := by
  induction front generalizing root with
  | nil =>
    rw [at?_nil, Option.some.injEq] at hfront
    subst hfront
    have hput : (dir entries).put [name] new = dir (putEntry name new entries) := rfl
    rw [List.nil_append, hput]
    refine ⟨by rw [at?_dir_cons, lookup_putEntry, if_pos rfl, Option.bind_some, at?_nil], ?_⟩
    intro q hq
    cases q with
    | nil => rfl
    | cons n q =>
      rw [at?_dir_cons, at?_dir_cons, lookup_putEntry]
      by_cases hn : n = name
      · subst hn
        obtain ⟨m, q, rfl⟩ := List.exists_cons_of_ne_nil (l := q) fun hnil => hq (hnil ▸ rfl)
        rw [if_pos rfl, hname, Option.bind_some, hnew]
        rfl
      · rw [if_neg hn]
  | cons m front ih =>
    obtain ⟨others, child, rfl, hchild, hrest⟩ := exists_of_at?_cons hfront
    obtain ⟨hthere, helse⟩ := ih hrest
    rw [List.cons_append, put_cons hchild]
    refine ⟨?_, fun q hq => ?_⟩
    · rw [at?_dir_cons, lookup_putEntry, if_pos rfl, Option.bind_some, hthere]
    · cases q with
      | nil => rfl
      | cons n q =>
        rw [at?_dir_cons, at?_dir_cons, lookup_putEntry]
        by_cases hn : n = m
        · subst hn
          rw [if_pos rfl, hchild]
          exact helse q fun heq => hq (heq ▸ rfl)
        · rw [if_neg hn]

end ScriptCheck.Node
