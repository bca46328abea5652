import ScriptCheck.Proofs.Json.Record
import ScriptCheck.Proofs.Settings.Layers
import ScriptCheck.Settings.Decode

/-! Settings from an editor. An object that has the leaves of settings under their names is read as
these settings, however its entries are ordered and whatever else it has, and one leaf or section
that holds a value of another kind makes it an error. -/

namespace ScriptCheck

open Json

namespace Settings

inductive Section where
  | tools
  | lint
  | format
  | pretty
deriving DecidableEq, Repr

namespace Section

abbrev Record : Section → Type
  | tools => ToolsSection
  | lint => LintSection
  | format => FormatSection
  | pretty => PrettySection

def name : Section → String
  | tools => "tools"
  | lint => "lint"
  | format => "format"
  | pretty => "pretty"

def decode (rules : Rules) : (s : Section) → Json → Decoded s.Record
  | tools => ToolsSection.decode rules
  | lint => LintSection.decode rules
  | format => FormatSection.decode rules
  | pretty => PrettySection.decode rules

def get : (s : Section) → Settings → s.Record
  | tools, c => c.tools
  | lint, c => c.lint
  | format, c => c.format
  | pretty, c => c.pretty

def set : (s : Section) → s.Record → Settings → Settings
  | tools, r, c => { c with tools := r }
  | lint, r, c => { c with lint := r }
  | format, r, c => { c with format := r }
  | pretty, r, c => { c with pretty := r }

end Section

namespace Leaf

def home : Leaf → Section
  | fish | fishIndent | timeoutMs => .tools
  | onOpen | onSave | onChange | debounceMs => .lint
  | formatEnabled => .format
  | prettyEnabled | colors => .pretty

def field : Leaf → String
  | fish => "fish"
  | fishIndent => "fish_indent"
  | timeoutMs => "timeout_ms"
  | onOpen => "on_open"
  | onSave => "on_save"
  | onChange => "on_change"
  | debounceMs => "debounce_ms"
  | formatEnabled => "enabled"
  | prettyEnabled => "enabled"
  | colors => "colors"

def decode (rules : Rules) : (l : Leaf) → Json → Decoded (Option l.Value)
  | fish | fishIndent => optional decodePath
  | timeoutMs | debounceMs => optional (expectNat "u64")
  | onOpen | onSave | onChange | formatEnabled | prettyEnabled => optional expectBool
  | colors => optional (ColorMode.decode rules)

def set : (l : Leaf) → Option l.Value → Settings → Settings
  | fish, x, c => { c with tools.fish := x }
  | fishIndent, x, c => { c with tools.fishIndent := x }
  | timeoutMs, x, c => { c with tools.timeoutMs := x }
  | onOpen, x, c => { c with lint.onOpen := x }
  | onSave, x, c => { c with lint.onSave := x }
  | onChange, x, c => { c with lint.onChange := x }
  | debounceMs, x, c => { c with lint.debounceMs := x }
  | formatEnabled, x, c => { c with format.enabled := x }
  | prettyEnabled, x, c => { c with pretty.enabled := x }
  | colors, x, c => { c with pretty.colors := x }

end Leaf

abbrev Section.Leaves (s : Section) : Type := { l : Leaf // l.home = s }

def Section.leaf (s : Section) (l : s.Leaves) (r : s.Record) : Option l.1.Value :=
  (s.set r {}).leaf l.1

def Section.setLeaf (s : Section) (l : s.Leaves) (x : Option l.1.Value) (r : s.Record) : s.Record :=
  s.get (l.1.set x (s.set r {}))

theorem leaf_get (c : Settings) (l : Leaf) : l.home.leaf ⟨l, rfl⟩ (l.home.get c) = c.leaf l := by
  cases l <;> rfl

theorem leaf_setLeaf (s : Section) (l : s.Leaves) (x : Option l.1.Value) (r : s.Record) :
    s.leaf l (s.setLeaf l x r) = x := by
  obtain ⟨l, rfl⟩ := l
  cases l <;> rfl

theorem leaf_setLeaf_of_ne (s : Section) (l m : s.Leaves) (x : Option l.1.Value) (r : s.Record)
    (hm : m ≠ l) : s.leaf m (s.setLeaf l x r) = s.leaf m r := by
  obtain ⟨l, rfl⟩ := l
  obtain ⟨m, hsame⟩ := m
  cases l <;> cases m <;> cases hsame <;> first | rfl | exact absurd rfl hm

def Section.draft (s : Section) : s.Record := s.get {}

theorem decodesRecord_of_step {rules : Rules} {s : Section}
    {step : s.Record → String → Json → Decoded s.Record}
    (hknown : ∀ r (l : s.Leaves) v, step r l.1.field v =
      l.1.decode rules v >>= fun x => pure (s.setLeaf l x r))
    (hunknown : ∀ r k v, (∀ l : s.Leaves, k ≠ l.1.field) → step r k v = .ok r) (name : String)
    (fields : List String) :
    DecodesRecord (foldRecord rules name fields step s.draft) s.draft
      (fun l : s.Leaves => l.1.field) s.leaf s.setLeaf fun l => l.1.decode rules := by
  refine decodesRecord_foldRecord ⟨hknown, hunknown, ?_, ?_⟩ rules name fields s.draft
  · exact fun r l x => leaf_setLeaf s l x r
  · exact fun r l x m hm => leaf_setLeaf_of_ne s l m x r hm

theorem decodesRecord_section (rules : Rules) (s : Section) :
    DecodesRecord (s.decode rules) s.draft (fun l : s.Leaves => l.1.field) s.leaf s.setLeaf
      fun l => l.1.decode rules := by
  cases s with
  | tools =>
    simp only [Section.decode]
    unfold ToolsSection.decode
    apply decodesRecord_of_step (s := .tools)
    · rintro r ⟨l, hl⟩ v
      cases l <;> cases hl <;> rfl
    · intro r k v hk
      split
      · exact absurd rfl (hk ⟨.fish, rfl⟩)
      · exact absurd rfl (hk ⟨.fishIndent, rfl⟩)
      · exact absurd rfl (hk ⟨.timeoutMs, rfl⟩)
      · rfl
  | lint =>
    simp only [Section.decode]
    unfold LintSection.decode
    apply decodesRecord_of_step (s := .lint)
    · rintro r ⟨l, hl⟩ v
      cases l <;> cases hl <;> rfl
    · intro r k v hk
      split
      · exact absurd rfl (hk ⟨.onOpen, rfl⟩)
      · exact absurd rfl (hk ⟨.onSave, rfl⟩)
      · exact absurd rfl (hk ⟨.onChange, rfl⟩)
      · exact absurd rfl (hk ⟨.debounceMs, rfl⟩)
      · rfl
  | format =>
    simp only [Section.decode]
    unfold FormatSection.decode
    apply decodesRecord_of_step (s := .format)
    · rintro r ⟨l, hl⟩ v
      cases l <;> cases hl
      rfl
    · intro r k v hk
      split
      · exact absurd rfl (hk ⟨.formatEnabled, rfl⟩)
      · rfl
  | pretty =>
    simp only [Section.decode]
    unfold PrettySection.decode
    apply decodesRecord_of_step (s := .pretty)
    · rintro r ⟨l, hl⟩ v
      cases l <;> cases hl <;> rfl
    · intro r k v hk
      split
      · exact absurd rfl (hk ⟨.prettyEnabled, rfl⟩)
      · exact absurd rfl (hk ⟨.colors, rfl⟩)
      · rfl

theorem decodesRecord_decode (rules : Rules) :
    DecodesRecord (decode rules) {} Section.name Section.get Section.set
      (Section.decode rules) := by
  refine decodesRecord_foldRecord ⟨fun c s v => ?_, fun c k v hk => ?_, ?_, ?_⟩ rules _ _ _
  · cases s <;> rfl
  · split
    · exact absurd rfl (hk .tools)
    · exact absurd rfl (hk .lint)
    · exact absurd rfl (hk .format)
    · exact absurd rfl (hk .pretty)
    · rfl
  · intro c s r
    cases s <;> rfl
  · intro c s r t ht
    cases s <;> cases t <;> first | rfl | exact absurd rfl ht

namespace Leaf

def Fits : (l : Leaf) → l.Value → Prop
  | timeoutMs | debounceMs => fun n : Nat => n < limit64
  | _ => fun _ => True

def toJson : (l : Leaf) → l.Value → Json
  | fish, p | fishIndent, p => .str p.text
  | timeoutMs, n | debounceMs, n => .nat n
  | onOpen, b | onSave, b | onChange, b | formatEnabled, b | prettyEnabled, b => .bool b
  | colors, c => .str c.name

/-- A value of another kind than that of the leaf: no text for a path, no truth value, or no integer
of 64 bits. -/
def Misfits : Leaf → Json → Prop
  | fish, v | fishIndent, v => v ≠ .null ∧ ∀ text, v ≠ .str text
  | onOpen, v | onSave, v | onChange, v | formatEnabled, v | prettyEnabled, v =>
    v ≠ .null ∧ ∀ b, v ≠ .bool b
  | timeoutMs, v | debounceMs, v => v ≠ .null ∧ ∀ n < limit64, v ≠ .nat n
  | colors, _ => False

theorem decode_null (rules : Rules) (l : Leaf) : l.decode rules .null = .ok none := by
  cases l <;> rfl

theorem decode_toJson (rules : Rules) (l : Leaf) {x : l.Value} (hx : l.Fits x) :
    l.decode rules (l.toJson x) = .ok (some x) := by
  cases l with
  | timeoutMs => exact congrArg (some <$> ·) (expectNat_nat hx "u64")
  | debounceMs => exact congrArg (some <$> ·) (expectNat_nat hx "u64")
  | colors => cases x <;> rfl
  | _ => rfl

theorem exists_optional_error {α : Type} {decode : Json → Decoded α} {v : Json} (hv : v ≠ .null)
    (herror : ∃ e, decode v = .error e) : ∃ e, optional decode v = .error e := by
  obtain ⟨e, he⟩ := herror
  exact ⟨e, by rw [optional_of_ne_null decode hv, he]; rfl⟩

theorem exists_expectBool_error {v : Json} (hv : ∀ b, v ≠ .bool b) :
    ∃ e, expectBool v = .error e := by
  cases v with
  | bool b => exact absurd rfl (hv b)
  | _ => exact ⟨_, rfl⟩

theorem exists_decodePath_error {v : Json} (hv : ∀ text, v ≠ .str text) :
    ∃ e, decodePath v = .error e := by
  cases v with
  | str text => exact absurd rfl (hv text)
  | _ => exact ⟨_, rfl⟩

theorem exists_expectNat_error {v : Json} (hv : ∀ n < limit64, v ≠ .nat n) (wanted : String) :
    ∃ e, expectNat wanted v = .error e := by
  cases v with
  | int i =>
    have hrange : ¬ (0 ≤ i ∧ i < limit64) := by
      rintro ⟨hzero, hlimit⟩
      obtain ⟨n, rfl⟩ := Int.eq_ofNat_of_zero_le hzero
      exact hv n (Int.ofNat_lt.mp hlimit) rfl
    exact ⟨_, if_neg hrange⟩
  | _ => exact ⟨_, rfl⟩

theorem exists_decode_error (rules : Rules) (l : Leaf) {v : Json} (hv : l.Misfits v) :
    ∃ e, l.decode rules v = .error e := by
  cases l with
  | fish | fishIndent => exact exists_optional_error hv.1 (exists_decodePath_error hv.2)
  | timeoutMs | debounceMs => exact exists_optional_error hv.1 (exists_expectNat_error hv.2 "u64")
  | onOpen | onSave | onChange | formatEnabled | prettyEnabled =>
    exact exists_optional_error hv.1 (exists_expectBool_error hv.2)
  | colors => exact hv.elim

end Leaf

def Leaf.at? (l : Leaf) (entries : List (String × Json)) : Option Json :=
  (entries.lookup l.home.name).bind (·.get? l.field)

structure Sectioned (entries : List (String × Json)) : Prop where
  distinct : (entries.map Prod.fst).Nodup
  sections : ∀ (s : Section) v, entries.lookup s.name = some v →
    ∃ fields, v = .obj fields ∧ (fields.map Prod.fst).Nodup

/-- The leaves of settings in an object, under their names. What is not set is left out or null,
and whatever has another name is as it likes. -/
structure Spells (c : Settings) (entries : List (String × Json)) : Prop extends
    Sectioned entries where
  given : ∀ l x, c.leaf l = some x → l.at? entries = some (l.toJson x)
  missing : ∀ l, c.leaf l = none → l.at? entries = none ∨ l.at? entries = some .null

/-- A leaf or a section in an object has a value of another kind. -/
inductive Faulty (entries : List (String × Json)) : Prop
  | ofLeaf (l : Leaf) (v : Json) (hv : l.at? entries = some v) (hmisfits : l.Misfits v)
  | ofSection (s : Section) (v : Json) (hv : entries.lookup s.name = some v)
      (hlist : ∀ items, v ≠ .arr items) (hobject : ∀ fields, v ≠ .obj fields)

/-- An object as an editor sends it, bare or wrapped. -/
inductive Sends (entries : List (String × Json)) : Json → Prop
  | bare (hbare : entries.lookup "gill" = none) : Sends entries (.obj entries)
  | wrapped (others : List (String × Json))
      (hwrapped : others.lookup "gill" = some (.obj entries)) : Sends entries (.obj others)

variable {c : Settings} {entries : List (String × Json)} {value : Json}

theorem ofClient_eq (hsends : Sends entries value) :
    ofClient value = decode strictRules (.obj entries) := by
  cases hsends with
  | bare hbare =>
    have hget : (Json.obj entries).get? "gill" = none := hbare
    unfold ofClient
    rw [hget]
    rfl
  | wrapped others hwrapped =>
    have hget : (Json.obj others).get? "gill" = some (.obj entries) := hwrapped
    unfold ofClient
    rw [hget]
    rfl

theorem at?_of_none {l : Leaf} (hnone : entries.lookup l.home.name = none) :
    l.at? entries = none := by
  unfold Leaf.at?
  rw [hnone]
  rfl

theorem at?_of_some {l : Leaf} {fields : List (String × Json)}
    (hfields : entries.lookup l.home.name = some (.obj fields)) :
    l.at? entries = fields.lookup l.field := by
  unfold Leaf.at?
  rw [hfields]
  rfl

theorem leaf_of_decode {rules : Rules} (hentries : Sectioned entries)
    (hrun : decode rules (.obj entries) = .ok c) (l : Leaf) :
    (l.at? entries = none ∧ c.leaf l = none) ∨
      ∃ v, l.at? entries = some v ∧ l.decode rules v = .ok (c.leaf l) := by
  have hwhole := decodesRecord_decode rules
  have hpart := decodesRecord_section rules l.home
  cases hsection : entries.lookup l.home.name with
  | none =>
    have hget := hwhole.get_of_lookup_none hrun hsection
    refine .inl ⟨at?_of_none hsection, ?_⟩
    rw [← leaf_get, hget, leaf_get, leaf_default]
  | some v =>
    obtain ⟨fields, rfl, hfields⟩ := hentries.sections l.home v hsection
    have hhome := hwhole.read_of_lookup hrun hentries.distinct hsection
    rw [at?_of_some hsection]
    cases hfield : fields.lookup l.field with
    | none =>
      have hget := hpart.get_of_lookup_none (i := ⟨l, rfl⟩) hhome hfield
      refine .inl ⟨rfl, ?_⟩
      rw [← leaf_get, hget, Section.draft, leaf_get, leaf_default]
    | some w =>
      have hleaf := hpart.read_of_lookup (i := ⟨l, rfl⟩) hhome hfields hfield
      rw [leaf_get] at hleaf
      exact .inr ⟨w, rfl, hleaf⟩

theorem exists_decode {rules : Rules} (hentries : Sectioned entries)
    (hleaves : ∀ (l : Leaf) v, l.at? entries = some v → ∃ x, l.decode rules v = .ok x) :
    ∃ c, decode rules (.obj entries) = .ok c := by
  cases hrun : decode rules (.obj entries) with
  | ok c => exact ⟨c, rfl⟩
  | error e =>
    obtain ⟨s, v, hlookup, hsection⟩ :=
      (decodesRecord_decode rules).exists_of_error hrun hentries.distinct
    obtain ⟨fields, rfl, hfields⟩ := hentries.sections s v hlookup
    obtain ⟨⟨l, rfl⟩, w, hfield, hleaf⟩ :=
      (decodesRecord_section rules s).exists_of_error hsection hfields
    obtain ⟨x, hx⟩ := hleaves l w ((at?_of_some hlookup).trans hfield)
    cases hx.symm.trans hleaf

theorem exists_error_of_faulty (rules : Rules) (hfaulty : Faulty entries) :
    ∃ e, decode rules (.obj entries) = .error e := by
  cases hfaulty with
  | ofSection s v hv hlist hobject =>
    have hsection := (decodesRecord_section rules s).scalar v hlist hobject
    exact (decodesRecord_decode rules).exists_error hv hsection
  | ofLeaf l v hv hmisfits =>
    obtain ⟨value, hvalue, hfield⟩ := Option.bind_eq_some_iff.mp hv
    refine (decodesRecord_decode rules).exists_error hvalue ?_
    cases value with
    | obj fields =>
      have hlookup : fields.lookup l.field = some v := hfield
      have hleaf := l.exists_decode_error rules hmisfits
      exact (decodesRecord_section rules l.home).exists_error (i := ⟨l, rfl⟩) hlookup hleaf
    | _ => cases hfield

theorem ofClient_eq_ok_of_spells (hsends : Sends entries value)
    (hfits : ∀ l x, c.leaf l = some x → l.Fits x) (hspells : Spells c entries) :
    ofClient value = .ok c := by
  rw [ofClient_eq hsends]
  have hread (l : Leaf) (v : Json) (hv : l.at? entries = some v) :
      l.decode strictRules v = .ok (c.leaf l) := by
    cases hleaf : c.leaf l with
    | some x =>
      rw [hspells.given l x hleaf, Option.some.injEq] at hv
      rw [← hv]
      exact l.decode_toJson strictRules (hfits l x hleaf)
    | none =>
      rcases hspells.missing l hleaf with hnone | hnull
      · cases hnone.symm.trans hv
      · rw [hnull, Option.some.injEq] at hv
        rw [← hv]
        exact l.decode_null strictRules
  obtain ⟨d, hd⟩ := exists_decode hspells.toSectioned fun l v hv => ⟨_, hread l v hv⟩
  have hsame : d = c := by
    refine ext_leaf fun l => ?_
    rcases leaf_of_decode hspells.toSectioned hd l with ⟨hnone, hleaf⟩ | ⟨v, hv, hleaf⟩
    · rw [hleaf]
      cases hc : c.leaf l with
      | none => rfl
      | some x => cases (hspells.given l x hc).symm.trans hnone
    · exact Except.ok.inj (hleaf.symm.trans (hread l v hv))
  rw [hd, hsame]

theorem exists_ofClient_error_of_faulty (hsends : Sends entries value) (hfaulty : Faulty entries) :
    ∃ e, ofClient value = .error e := by
  rw [ofClient_eq hsends]
  exact exists_error_of_faulty strictRules hfaulty

/-- Settings are read from every object that spells them, and from no object with a fault. -/
theorem ofClient_of_spells (hsends : Sends entries value) :
    (∀ c : Settings, (∀ l x, c.leaf l = some x → l.Fits x) → Spells c entries →
      ofClient value = .ok c) ∧
    (Faulty entries → ∃ e, ofClient value = .error e) := by
  constructor
  · exact fun c hfits hspells => ofClient_eq_ok_of_spells hsends hfits hspells
  · exact exists_ofClient_error_of_faulty hsends

theorem ofClient_of_spells_limits :
    let c : Settings := {
      tools := { fish := some ⟨"/bin/fish"⟩, timeoutMs := some 18446744073709551615 }
      pretty := { enabled := some false, colors := some .never } }
    let tools (limit : Nat) : Json := .obj [("timeout_ms", .nat limit), ("x", .arr [.null]),
      ("fish", .str "/bin/fish"), ("fish_indent", .null)]
    let entries (limit : Nat) : List (String × Json) :=
      [("lint", .obj []), ("pretty", .obj [("colors", .str "never"), ("enabled", .bool false)]),
        ("theme", .int 3), ("tools", tools limit)]
    ofClient (.obj [("gill", .obj (entries 18446744073709551615)), ("tools", .null)]) = .ok c ∧
      ∃ e, ofClient (.obj (entries 18446744073709551616)) = .error e := by
  intro c tools entries
  have hwrapped (limit : Nat) :
      Sends (entries limit) (.obj [("gill", .obj (entries limit)), ("tools", .null)]) :=
    .wrapped _ rfl
  have hbare (limit : Nat) : Sends (entries limit) (.obj (entries limit)) := .bare rfl
  constructor
  · refine (ofClient_of_spells (hwrapped _)).1 c ?_ ⟨⟨by decide, ?_⟩, ?_, ?_⟩
    · intro l x hx
      cases l with
      | timeoutMs =>
        cases hx
        show 18446744073709551615 < limit64
        decide
      | debounceMs => cases hx
      | _ => trivial
    · intro s v hv
      cases s <;> cases hv <;> exact ⟨_, rfl, by decide⟩
    · intro l x hx
      cases l <;> cases hx <;> rfl
    · intro l hl
      cases l <;> cases hl <;> first | exact .inl rfl | exact .inr rfl
  · refine (ofClient_of_spells (hbare _)).2 (.ofLeaf .timeoutMs _ rfl ⟨nofun, ?_⟩)
    rintro n hn ⟨⟩
    exact absurd hn (by decide)

end Settings
end ScriptCheck
