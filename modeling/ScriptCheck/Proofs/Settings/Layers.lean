import Mathlib.Data.List.Basic
import ScriptCheck.Proofs.Host.Offering
import ScriptCheck.Proofs.Settings.Load

/-! Settings in layers. When records are laid over each other field by field, each field goes its
own way, and what it comes to is what the last layer to set it says. The layers of a project are
those of its files that can be read as a whole. -/

namespace ScriptCheck

namespace Layered

variable {σ φ κ α : Type} [Layered σ] [Layered φ] [DecidableEq κ]

/-- A field that is laid over its counterpart when the records are. -/
def IsField (field : σ → φ) : Prop :=
  ∀ base top, field (overlay base top) = overlay (field base) (field top)

namespace IsField

theorem get? {entries : σ → Table κ α} (hentries : IsField entries) (key : κ) :
    IsField fun s => (entries s).get? key := by
  intro base top
  have hunion := Table.get?_union (entries base) (entries top) key
  simp only [hentries base top]
  exact hunion

theorem foldl_overlay {field : σ → Option α} (hfield : IsField field) (base : σ)
    (layers : List σ) :
    field (layers.foldl overlay base) = ((base :: layers).filterMap field).getLast? := by
  induction layers generalizing base with
  | nil => cases hbase : field base <;> simp [hbase]
  | cons layer layers ih =>
    have hover : field (overlay base layer) = (field layer).or (field base) := hfield base layer
    rw [List.foldl_cons, ih]
    cases hbase : field base <;> cases hlayer : field layer <;>
      simp [hover, hbase, hlayer, List.getLast?_cons]

end IsField
end Layered

open Layered

namespace Settings

inductive Leaf where
  | fish
  | fishIndent
  | timeoutMs
  | onOpen
  | onSave
  | onChange
  | debounceMs
  | formatEnabled
  | prettyEnabled
  | colors
deriving DecidableEq, Repr

def Leaf.Value : Leaf → Type
  | fish | fishIndent => Path
  | timeoutMs | debounceMs => Nat
  | onOpen | onSave | onChange | formatEnabled | prettyEnabled => Bool
  | colors => ColorMode

def leaf (s : Settings) : (l : Leaf) → Option l.Value
  | .fish => s.tools.fish
  | .fishIndent => s.tools.fishIndent
  | .timeoutMs => s.tools.timeoutMs
  | .onOpen => s.lint.onOpen
  | .onSave => s.lint.onSave
  | .onChange => s.lint.onChange
  | .debounceMs => s.lint.debounceMs
  | .formatEnabled => s.format.enabled
  | .prettyEnabled => s.pretty.enabled
  | .colors => s.pretty.colors

variable {a b : Settings}

theorem isField_leaf (l : Leaf) : IsField fun s : Settings => s.leaf l := by
  intro base top
  cases l <;> rfl

theorem leaf_overlay (base top : Settings) (l : Leaf) :
    (overlay base top).leaf l = (top.leaf l).or (base.leaf l) := isField_leaf l base top

theorem leaf_default (l : Leaf) : ({} : Settings).leaf l = none := by cases l <;> rfl

theorem ext_leaf (hleaf : ∀ l, a.leaf l = b.leaf l) : a = b := by
  obtain ⟨⟨_, _, _⟩, ⟨_, _, _, _⟩, ⟨_⟩, ⟨_, _⟩⟩ := a
  obtain ⟨⟨_, _, _⟩, ⟨_, _, _, _⟩, ⟨_⟩, ⟨_, _⟩⟩ := b
  simp only [mk.injEq, ToolsSection.mk.injEq, LintSection.mk.injEq, FormatSection.mk.injEq,
    PrettySection.mk.injEq]
  exact ⟨⟨hleaf .fish, hleaf .fishIndent, hleaf .timeoutMs⟩,
    ⟨hleaf .onOpen, hleaf .onSave, hleaf .onChange, hleaf .debounceMs⟩, hleaf .formatEnabled,
    hleaf .prettyEnabled, hleaf .colors⟩

theorem overlay_assoc (a b c : Settings) :
    overlay (overlay a b) c = overlay a (overlay b c) := by
  refine ext_leaf fun l => ?_
  simp only [leaf_overlay, Option.or_assoc]

theorem overlay_default_left (a : Settings) : overlay {} a = a := by
  refine ext_leaf fun l => ?_
  simp only [leaf_overlay, leaf_default, Option.or_none]

theorem overlay_default_right (a : Settings) : overlay a {} = a := by
  refine ext_leaf fun l => ?_
  simp only [leaf_overlay, leaf_default, Option.none_or]

def inFile? (h : Host) (path : Path) : Option Settings := (h.readText path).toOption.bind ofToml?

theorem leaf_withFile (h : Host) (settings : Settings) (path : Path) (l : Leaf) :
    (withFile h settings path).leaf l =
      ((inFile? h path).bind (·.leaf l)).or (settings.leaf l) := by
  unfold withFile ofFile? inFile?
  cases hread : h.readText path with
  | error e => cases e <;> rfl
  | ok text =>
    cases htoml : ofToml? text with
    | none => simp [htoml, Except.toOption, throw, throwThe, MonadExceptOf.throw]
    | some layer => simp [htoml, Except.toOption, pure, Except.pure, leaf_overlay]

theorem leaf_load (h : Host) (root : Path) (l : Leaf) : ((load root).run h).1.leaf l =
    ((inFile? h ((projectDir root).join fileName)).bind (·.leaf l)).or
      ((globalDir? h).bind fun dir => (inFile? h (dir.join fileName)).bind (·.leaf l)) := by
  obtain ⟨g, hrun, -⟩ := ends_load root (.refl h)
  rw [hrun]
  unfold files
  cases globalDir? h with
  | none => simp [leaf_withFile, leaf_default]
  | some dir => simp [leaf_withFile, leaf_default]

/-- In each place layers come to what the last of them to set it says, whatever holds the place:
a leaf of the settings or a key of a table in a record. The settings of a project have each leaf
from its own file, if that is valid and sets it, or else from that of the account. -/
theorem leaf_of_layers :
    (∀ (layers : List Settings) (l : Leaf),
      (layers.foldl overlay {}).leaf l = (layers.filterMap (·.leaf l)).getLast?) ∧
    (∀ a b c : Settings, overlay (overlay a b) c = overlay a (overlay b c)) ∧
    (∀ a : Settings, overlay {} a = a ∧ overlay a {} = a) ∧
    (∀ (σ κ α : Type) [Layered σ] [DecidableEq κ] (entries : σ → Table κ α), IsField entries →
      ∀ (base : σ) (layers : List σ) (key : κ), (entries (layers.foldl overlay base)).get? key =
        ((base :: layers).filterMap fun s => (entries s).get? key).getLast?) ∧
    ∀ (h : Host) (root : Path) (l : Leaf), ((load root).run h).1.leaf l =
      ((inFile? h ((projectDir root).join fileName)).bind (·.leaf l)).or
        ((globalDir? h).bind fun dir => (inFile? h (dir.join fileName)).bind (·.leaf l)) := by
  refine ⟨?_, overlay_assoc, fun a => ⟨overlay_default_left a, overlay_default_right a⟩, ?_,
    leaf_load⟩
  · intro layers l
    have hlast := (isField_leaf l).foldl_overlay {} layers
    simpa [leaf_default] using hlast
  · intro σ κ α _ _ entries hentries base layers key
    exact (hentries.get? key).foldl_overlay base layers

structure Profile where
  limit : Option Nat := none
  aliases : Table String Nat := .empty
  format : FormatSection := {}

instance : Layered Profile where
  overlay base top := {
    limit := overlay base.limit top.limit
    aliases := overlay base.aliases top.aliases
    format := overlay base.format top.format }

def machine (account project : String) : Host := { Host.offering [] with
  tree := .dir [
    ("account", .dir [("gill", .dir [("config.toml", .file account.toUTF8 0o644)])]),
    ("project", .dir [(".gill", .dir [("config.toml", .file project.toUTF8 0o644)])])]
  environment := [("XDG_CONFIG_HOME", "/account")] }

theorem leaf_of_layers_aliases :
    let layers : List Profile :=
      [{ aliases := ⟨[("a", 1), ("b", 2)]⟩ }, { aliases := ⟨[("b", 3)]⟩ }, { limit := some 0 }]
    let h := machine "[lint]\non_save = false\n" "[lint]\non_save = true\ndebounce_ms = \"x\"\n"
    IsField Profile.aliases ∧ (layers.foldl overlay {}).aliases.get? "a" = some 1 ∧
      (layers.foldl overlay {}).aliases.get? "b" = some 3 ∧
      inFile? h ⟨"/project/.gill/config.toml"⟩ = none ∧
      ((load ⟨"/project"⟩).run h).1.leaf .onSave = some false := by
  intro layers h
  have hfield : IsField Profile.aliases := fun _ _ => rfl
  have hdir : globalDir? h = some ⟨"/account/gill"⟩ := by decide +kernel
  have hglobal : inFile? h (Path.join ⟨"/account/gill"⟩ fileName) =
      some { lint := { onSave := some false } } := by decide +kernel
  have hproject : inFile? h ((projectDir ⟨"/project"⟩).join fileName) = none := by decide +kernel
  obtain ⟨-, -, -, htable, hload⟩ := leaf_of_layers
  refine ⟨hfield, htable _ _ _ _ hfield _ _ _, htable _ _ _ _ hfield _ _ _, hproject, ?_⟩
  rw [hload, hproject, hdir, Option.bind_some, hglobal]
  rfl

end Settings
end ScriptCheck
