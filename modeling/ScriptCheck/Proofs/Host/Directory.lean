import ScriptCheck.Proofs.Host.File
import ScriptCheck.Proofs.Host.Growth

/-! Directories that are made on the way to a path, and files that are written. A directory is new
only where there was nothing and the path has to go through, and what was there stays. -/

namespace ScriptCheck

variable {h g k : Host} {path way parent : Path} {place : Place} {text : String} {fuel : Nat}

inductive Path.OnWay : Path → Path → Prop
  | self (path : Path) : OnWay path path
  | up {path parent way : Path} (hparent : path.parent? = some parent) (hway : OnWay parent way) :
      OnWay path way

namespace Host

theorem locate_eq_ok_iff {follow : Bool} : h.tree.locate h.workDir path follow = .ok place ↔
    path.defect? = none ∧ Node.Leads h.tree follow place 40
      (if path.isAbsolute then [] else h.workDir) path.names := by
  unfold Node.locate
  cases path.defect? with
  | some e => exact ⟨nofun, fun hboth => by cases hboth.1⟩
  | none => exact ⟨fun hwalk => ⟨rfl, Node.leads_of_walk hwalk⟩, fun hboth => hboth.2.walk_eq⟩

theorem lands_of_locate {follow : Bool}
    (hplace : h.tree.locate h.workDir path follow = .ok place)
    (hnames : path.names = [] → follow = false) : Node.Lands h.tree follow place := by
  obtain ⟨hsound, hleads⟩ := locate_eq_ok_iff.mp hplace
  refine hleads.lands fun hnil => ?_
  have habsolute : path.isAbsolute = true := by
    obtain ⟨c, rest, htext⟩ := List.exists_cons_of_ne_nil (l := path.text.toList) (by
      simpa using Path.text_ne_empty_of_sound hsound)
    have hslash : c = '/' := by
      by_contra hc
      exact Path.names_ne_nil (htext ▸ List.mem_cons_self) hc hnil
    unfold Path.isAbsolute
    rw [htext, hslash]
    rfl
  rw [if_pos habsolute]
  exact .inl ⟨h.tree, Node.at?_nil h.tree, fun hfollow =>
    absurd ((hnames hnil).symm.trans hfollow) Bool.false_ne_true⟩

structure MadeDirs (h g : Host) (path : Path) : Prop where
  host : g = h.setTree g.tree
  places : ∀ place, (g.tree.at? place).map Node.bare = (h.tree.at? place).map Node.bare ∨
    h.tree.at? place = none ∧ (g.tree.at? place).map Node.bare = some (.dir []) ∧
      ∃ way, path.OnWay way ∧ g.locate way = .ok place

theorem makeDir_eq_ok (hplain : path.IsPlain) (hmade : h.makeDir path = .ok g) :
    ∃ place, h.tree.locate h.workDir path false = .ok place ∧ h.tree.at? place = none ∧
      g = h.setTree (h.tree.put place (.dir [])) := by
  have hsame : (if path.names.getLast? = some "." then Path.ofComponents path.components
      else path) = path := by
    split
    next hdot =>
      rw [hplain hdot]
      rfl
    next => rfl
  unfold makeDir at hmade
  simp only [hsame] at hmade
  cases hplace : h.tree.locate h.workDir path false with
  | error e =>
    rw [hplace] at hmade
    cases hmade
  | ok place =>
    rw [hplace] at hmade
    simp only [bind, Except.bind] at hmade
    cases hnone : h.tree.at? place with
    | some node =>
      rw [hnone] at hmade
      cases hmade
    | none =>
      rw [hnone] at hmade
      exact ⟨place, rfl, hnone, (Except.ok.inj hmade).symm⟩

namespace MadeDirs

theorem refl (h : Host) (path : Path) : h.MadeDirs h path := ⟨rfl, fun _ => .inl rfl⟩

theorem keepsWays (hg : h.MadeDirs g path) : h.tree.KeepsWays g.tree := by
  intro place
  rcases hg.places place with hsame | ⟨hnone, hdir, -⟩
  · exact .inl (Node.map_frame_of_map_bare hsame)
  · refine .inr ⟨by simp [hnone], fun node hnode => ?_⟩
    rw [hnode] at hdir
    cases node with
    | link target => cases hdir
    | _ => rfl

theorem locate_eq (hg : h.MadeDirs g path) {other : Path} (hplace : h.locate other = .ok place) :
    g.locate other = .ok place := by
  unfold locate
  rw [hg.host]
  exact hg.keepsWays.locate hplace

theorem parents (hk : h.MadeDirs k parent) (hparent : path.parent? = some parent)
    (hg : k.MadeDirs g path) : h.MadeDirs g path where
  host := by
    rw [hg.host, hk.host]
    rfl
  places place := by
    rcases hg.places place with hsame | ⟨hnone, hdir, hway⟩
    · rw [hsame]
      rcases hk.places place with hold | ⟨hnone, hdir, way, hway, hplace⟩
      · exact .inl hold
      · exact .inr ⟨hnone, hdir, way, .up hparent hway, hg.locate_eq hplace⟩
    · rcases hk.places place with hold | ⟨-, hthere, -⟩
      · rw [hnone] at hold
        exact .inr ⟨Option.map_eq_none_iff.mp hold.symm, hdir, hway⟩
      · rw [hnone] at hthere
        cases hthere

theorem bare_eq (hg : h.MadeDirs g path) {node : Node} (hnode : h.tree.at? place = some node) :
    (g.tree.at? place).map Node.bare = some node.bare := by
  rcases hg.places place with hsame | ⟨hnone, -⟩
  · rw [hsame, hnode]
    rfl
  · cases hnone.symm.trans hnode

theorem link_eq (hg : h.MadeDirs g path) {target : Path}
    (hlink : g.tree.at? place = some (.link target)) :
    h.tree.at? place = some (.link target) := by
  rcases hg.places place with hsame | ⟨-, hdir, -⟩
  · rw [hlink] at hsame
    obtain ⟨node, hnode, hbare⟩ := Option.map_eq_some_iff.mp hsame.symm
    rw [hnode, Node.eq_link_of_bare hbare]
  · rw [hlink] at hdir
    cases hdir

theorem leads_of_leads (hg : h.MadeDirs g path)
    (hlinks : ∀ target ∈ h.tree.targets, ".." ∉ target.names)
    {follow : Bool} {links : Nat} {here there : Place} {names : List String} {node : Node}
    (hnode : h.tree.at? there = some node)
    (hleads : Node.Leads g.tree follow there links here names) (hups : ".." ∉ names) :
    (∃ node, h.tree.at? here = some node) ∧ Node.Leads h.tree follow there links here names := by
  induction hleads with
  | arrived => exact ⟨⟨node, hnode⟩, .arrived⟩
  | stay hdir _ ih =>
    obtain ⟨⟨old, hold⟩, hback⟩ := ih (List.not_mem_of_not_mem_cons hups)
    have hbare := hg.bare_eq hold
    rw [hdir] at hbare
    obtain ⟨_, rfl⟩ := Node.exists_dir_of_bare (Option.some.inj hbare).symm
    exact ⟨⟨_, hold⟩, .stay hold hback⟩
  | up => exact absurd List.mem_cons_self hups
  | missing _ _ hnone hplace =>
    subst hplace
    have hbare := hg.bare_eq hnode
    rw [hnone] at hbare
    cases hbare
  | entry _ hname hthere hlink _ ih =>
    obtain ⟨⟨old, hold⟩, hback⟩ := ih (List.not_mem_of_not_mem_cons hups)
    obtain ⟨_, habove⟩ := Node.exists_dir_above hold
    have hbare := hg.bare_eq hold
    rw [hthere] at hbare
    have hkind : old.isLink = false := by
      rw [← Node.isLink_bare, ← Option.some.inj hbare, Node.isLink_bare, hlink]
    exact ⟨⟨_, habove⟩, .entry habove hname hold hkind hback⟩
  | held _ hname hlink hfollow hplace =>
    have hold := hg.link_eq hlink
    obtain ⟨_, habove⟩ := Node.exists_dir_above hold
    exact ⟨⟨_, habove⟩, .held habove hname hold hfollow hplace⟩
  | followed _ hname hlink hmore _ ih =>
    have hold := hg.link_eq hlink
    obtain ⟨_, habove⟩ := Node.exists_dir_above hold
    have hdown := hlinks _ (Node.mem_targets_of_at? hold)
    obtain ⟨-, hback⟩ := ih fun hup =>
      (List.mem_append.mp hup).elim hdown (List.not_mem_of_not_mem_cons hups)
    exact ⟨⟨_, habove⟩, .followed habove hname hold hmore hback⟩

end MadeDirs

theorem madeDirs_makeDir (hplain : path.IsPlain) (hmade : h.makeDir path = .ok g) :
    h.MadeDirs g path := by
  obtain ⟨place, hplace, hnone, rfl⟩ := makeDir_eq_ok hplain hmade
  obtain ⟨hsound, hleads⟩ := locate_eq_ok_iff.mp hplace
  have honward : h.locate path = .ok place :=
    locate_eq_ok_iff.mpr ⟨hsound, hleads.onward fun node hnode => by simp [hnone] at hnode⟩
  rcases lands_of_locate hplace fun _ => rfl with
    ⟨node, hnode, -⟩ | ⟨-, front, name, entries, rfl, hdir⟩
  · rw [hnone] at hnode
    cases hnode
  have hname := Node.at?_concat hdir name
  rw [hnone] at hname
  have hempty : ∀ n rest, (Node.dir []).at? (n :: rest) = none := fun _ _ => rfl
  obtain ⟨hthere, helse⟩ := Node.at?_put_entry hdir hname.symm hempty
  have hkeeps : h.tree.KeepsWays (h.tree.put (front ++ [name]) (.dir [])) := by
    intro q
    by_cases hq : q = front ++ [name]
    · subst hq
      rw [hnone, hthere]
      refine .inr ⟨rfl, fun node hnode => ?_⟩
      rw [← Option.some.inj hnode]
      rfl
    · exact .inl (Node.map_frame_of_map_bare (helse q hq))
  refine ⟨rfl, fun q => ?_⟩
  by_cases hq : q = front ++ [name]
  · subst hq
    exact .inr ⟨hnone, congrArg (Option.map Node.bare) hthere, path, .self path,
      hkeeps.locate honward⟩
  · exact .inl (helse q hq)

theorem madeDirs_makeDirs (h : Host) (fuel : Nat) (hplain : path.IsPlain) :
    h.MadeDirs (h.makeDirs fuel path).2 path := by
  induction fuel generalizing path with
  | zero => exact .refl h path
  | succ fuel ih =>
    show h.MadeDirs (if path.text = "" then _ else _ : Except IoError Unit × Host).2 path
    split
    · exact .refl h path
    split
    next g hmade => exact madeDirs_makeDir hplain hmade
    next hmissing =>
      split
      · exact .refl h path
      next parent hparent =>
        have hbelow := ih (Path.isPlain_of_parent? hparent)
        have hhere (k : Host) := MadeDirs.refl k path
        split
        next e k hk =>
          rw [hk] at hbelow
          exact hbelow.parents hparent (hhere k)
        next k hk =>
          rw [hk] at hbelow
          split
          next g hmade => exact hbelow.parents hparent (madeDirs_makeDir hplain hmade)
          next e hmade => split <;> exact hbelow.parents hparent (hhere k)
    next e hmade => split <;> exact .refl h path

structure Wrote (g k : Host) (place : Place) (text : String) : Prop where
  host : k = g.setTree k.tree
  before : (g.tree.at? place).all Node.isFile = true
  after : ∃ mode, k.tree.at? place = some (.file text.toUTF8 mode) ∧
    (g.tree.at? place = none → mode = 0o644)
  elsewhere : ∀ other ≠ place,
    (k.tree.at? other).map Node.bare = (g.tree.at? other).map Node.bare

theorem writeText_eq_ok (hwritten : g.writeText path text = .ok k) :
    ∃ place, g.locate path = .ok place ∧
      (∀ node, g.tree.at? place = some node → node.isDir = false) ∧
      ∃ mode, (g.tree.at? place = none → mode = 0o644) ∧
        k = g.setTree (g.tree.put place (.file text.toUTF8 mode)) := by
  unfold writeText at hwritten
  cases hplace : g.locate path with
  | error e =>
    rw [hplace] at hwritten
    cases e <;> cases hwritten
  | ok place =>
    rw [hplace] at hwritten
    simp only [bind, Except.bind] at hwritten
    cases hnode : g.tree.at? place with
    | none =>
      rw [hnode] at hwritten
      exact ⟨place, rfl, by simp [hnode], _, fun _ => rfl, (Except.ok.inj hwritten).symm⟩
    | some node =>
      rw [hnode] at hwritten
      cases node with
      | dir entries => cases hwritten
      | _ =>
        exact ⟨place, rfl, by simp [hnode, Node.isDir], _, by simp [hnode],
          (Except.ok.inj hwritten).symm⟩

theorem exists_wrote (hnames : path.names ≠ []) (hwritten : g.writeText path text = .ok k) :
    ∃ place, g.locate path = .ok place ∧ g.Wrote k place text := by
  obtain ⟨place, hplace, hdir, mode, hmode, rfl⟩ := writeText_eq_ok hwritten
  refine ⟨place, hplace, ?_⟩
  rcases lands_of_locate hplace fun hnil => absurd hnil hnames with
    ⟨node, hnode, hlink⟩ | ⟨hnone, front, name, entries, rfl, hfront⟩
  · have hthere : (g.tree.put place (.file text.toUTF8 mode)).at? place =
        some (.file text.toUTF8 mode) := Node.at?_put hnode
    refine ⟨rfl, ?_, ⟨mode, hthere, hmode⟩, fun other hother => ?_⟩
    · rw [hnode, Option.all_some]
      exact Node.isFile_of_not_isDir (hdir node hnode) (hlink rfl)
    · exact Node.at?_put_of_ne hnode (hdir node hnode) rfl hother
  · have hname := Node.at?_concat hfront name
    rw [hnone] at hname
    have hleaf : ∀ n rest, (Node.file text.toUTF8 mode).at? (n :: rest) = none := fun _ _ => rfl
    obtain ⟨hthere, helse⟩ := Node.at?_put_entry hfront hname.symm hleaf
    exact ⟨rfl, by rw [hnone]; rfl, ⟨mode, hthere, hmode⟩, helse⟩

namespace Wrote

variable (hk : g.Wrote k place text)
include hk

theorem keepsWays : g.tree.KeepsWays k.tree ∧ k.tree.KeepsWays g.tree := by
  obtain ⟨mode, hafter, -⟩ := hk.after
  have hsame (other : Place) (hother : other ≠ place) :=
    Node.map_frame_of_map_bare (hk.elsewhere other hother)
  constructor
  · intro other
    by_cases hother : other = place
    · subst hother
      refine .inr ⟨hk.before, fun node hnode => ?_⟩
      obtain rfl := Option.some.inj (hafter.symm.trans hnode)
      rfl
    · exact .inl (hsame other hother)
  · intro other
    by_cases hother : other = place
    · subst hother
      refine .inr ⟨by rw [hafter]; rfl, fun node hnode => ?_⟩
      have hfile := hk.before
      rw [hnode, Option.all_some] at hfile
      cases node with
      | link target => cases hfile
      | _ => rfl
    · exact .inl (hsame other hother).symm

theorem locate_eq_ok_iff {other : Path} {there : Place} :
    k.locate other = .ok there ↔ g.locate other = .ok there := by
  unfold locate
  rw [hk.host]
  exact ⟨hk.keepsWays.2.locate, hk.keepsWays.1.locate⟩

end Wrote

theorem isFile_eq_true_iff : h.isFile path = true ↔
    ∃ place node, h.locate path = .ok place ∧ h.tree.at? place = some node ∧
      node.isFile = true := by
  unfold isFile
  cases hnode : h.node? path with
  | error e =>
    refine iff_of_false Bool.false_ne_true ?_
    rintro ⟨place, node, hplace, hat, -⟩
    rw [node?_eq_ok_iff.mpr ⟨place, hplace, hat⟩] at hnode
    cases hnode
  | ok node =>
    obtain ⟨place, hplace, hat⟩ := node?_eq_ok_iff.mp hnode
    refine ⟨fun hfile => ⟨place, node, hplace, hat, hfile⟩, ?_⟩
    rintro ⟨other, found, hother, hfound, hfile⟩
    cases hplace.symm.trans hother
    cases hat.symm.trans hfound
    exact hfile

theorem isFile_of_not_hasPath (hpath : h.hasPath path = false) : h.isFile path = false := by
  unfold hasPath at hpath
  unfold isFile
  cases hnode : h.node? path with
  | error e => rfl
  | ok node =>
    rw [hnode] at hpath
    cases hpath

theorem Wrote.isFile_of_ne {there : Place} (hk : g.Wrote k place text)
    (hthere : k.locate path = .ok there) (hother : there ≠ place) (hfile : k.isFile path = true) :
    g.isFile path = true := by
  obtain ⟨_, node, hsame, hnode, hisFile⟩ := isFile_eq_true_iff.mp hfile
  cases hthere.symm.trans hsame
  have hbare := hk.elsewhere there hother
  rw [hnode] at hbare
  obtain ⟨old, hold, hkind⟩ := Option.map_eq_some_iff.mp hbare.symm
  refine isFile_eq_true_iff.mpr ⟨there, old, hk.locate_eq_ok_iff.mp hthere, hold, ?_⟩
  rw [← Node.isFile_bare, hkind, Node.isFile_bare, hisFile]

/-- Making a directory, with those on the way to it, brings a path to a file that it did not lead
to before. -/
def Reveals (h : Host) (dir path : Path) : Prop :=
  h.isFile path = false ∧ (h.makeDirAll dir).2.isFile path = true

instance (h : Host) (dir path : Path) : Decidable (h.Reveals dir path) :=
  inferInstanceAs (Decidable (_ ∧ _))

/-- No way that begins with a path goes up. -/
def GoesDown (h : Host) (path : Path) : Prop :=
  ".." ∉ path.names ∧ ∀ target ∈ h.tree.targets, ".." ∉ target.names

instance (h : Host) (path : Path) : Decidable (h.GoesDown path) :=
  inferInstanceAs (Decidable (_ ∧ _))

theorem not_reveals_of_goesDown {dir : Path} (hplain : dir.IsPlain) (hdown : h.GoesDown path) :
    ¬ h.Reveals dir path := by
  rintro ⟨hbefore, hafter⟩
  have hg : h.MadeDirs (h.makeDirAll dir).2 dir := madeDirs_makeDirs h _ hplain
  obtain ⟨place, node, hplace, hnode, hisFile⟩ := isFile_eq_true_iff.mp hafter
  rcases hg.places place with hsame | ⟨-, hdir, -⟩
  · rw [hnode] at hsame
    obtain ⟨old, hold, hbare⟩ := Option.map_eq_some_iff.mp hsame.symm
    obtain ⟨hsound, hleads⟩ := locate_eq_ok_iff.mp hplace
    have hstart : (h.makeDirAll dir).2.workDir = h.workDir := by
      rw [hg.host]
      rfl
    rw [hstart] at hleads
    have hback := (hg.leads_of_leads hdown.2 hold hleads hdown.1).2
    have hfile : h.isFile path = true := by
      refine isFile_eq_true_iff.mpr ⟨place, old, locate_eq_ok_iff.mpr ⟨hsound, hback⟩, hold, ?_⟩
      rw [← Node.isFile_bare, hbare, Node.isFile_bare, hisFile]
    rw [hfile] at hbefore
    cases hbefore
  · rw [hnode] at hdir
    obtain ⟨_, rfl⟩ := Node.exists_dir_of_bare (Option.some.inj hdir)
    cases hisFile

end Host
end ScriptCheck
