import ScriptCheck.Diagnostic.Data
import ScriptCheck.Proofs.Json.Object
import ScriptCheck.Proofs.Json.Reading
import ScriptCheck.Proofs.Json.Record
import ScriptCheck.Proofs.Text.Lines

/-! Diagnostics as JSON text. What is written is one line and is read as the same diagnostic, and
whatever is read as a diagnostic can be written and read again. -/

namespace ScriptCheck

open Json

variable {entries : List (String × Json)} {value : Json} {n : Nat}

namespace Location

variable {l : Location} {draft : Draft}

structure Fits (l : Location) : Prop where
  line : l.line < limit64
  column : ∀ n ∈ l.column, n < limit64
  endColumn : ∀ n ∈ l.endColumn, n < limit64

inductive Field where
  | file
  | line
  | column
  | endColumn

namespace Field

abbrev Value : Field → Type
  | file => Path
  | line => Nat
  | column | endColumn => Option Nat

def key : Field → String
  | file => "file"
  | line => "line"
  | column => "column"
  | endColumn => "end_column"

def read : (f : Field) → Json → Decoded f.Value
  | file, v => Path.mk <$> expectString "path string" v
  | line, v => expectNat "usize" v
  | column, v | endColumn, v => optional (expectNat "usize") v

def get : (f : Field) → Draft → Option f.Value
  | file, draft => draft.file
  | line, draft => draft.line
  | column, draft => draft.column
  | endColumn, draft => draft.endColumn

def set : (f : Field) → Option f.Value → Draft → Draft
  | file, x, draft => { draft with file := x }
  | line, x, draft => { draft with line := x }
  | column, x, draft => { draft with column := x }
  | endColumn, x, draft => { draft with endColumn := x }

end Field

theorem readsFields : ReadsFields Draft.read Field.key Field.get Field.set
    fun f v => some <$> f.read v where
  known := by
    intro draft f v
    cases f <;> simp [Draft.read, Field.key, Field.read, Field.set]
  unknown := by
    intro draft k v hk
    unfold Draft.read
    split
    · exact absurd rfl (hk .file)
    · exact absurd rfl (hk .line)
    · exact absurd rfl (hk .column)
    · exact absurd rfl (hk .endColumn)
    · rfl
  get_set := by
    intro draft f x
    cases f <;> rfl
  get_set_of_ne := by
    intro draft f x g hg
    cases f <;> cases g <;> first | rfl | exact absurd rfl hg

theorem decodesRecord : DecodesRecord (foldRecord strictRules "Location" fields Draft.read {}) {}
    Field.key Field.get Field.set fun f v => some <$> f.read v :=
  decodesRecord_foldRecord readsFields strictRules "Location" fields {}

def SpellsColumn (column : Option Nat) (given : Option Json) : Prop :=
  match column with
  | some n => given = some (.nat n)
  | none => given = none ∨ given = some .null

structure Spells (l : Location) (entries : List (String × Json)) : Prop where
  distinct : (entries.map Prod.fst).Nodup
  file : entries.lookup "file" = some (.str l.file.text)
  line : entries.lookup "line" = some (.nat l.line)
  column : SpellsColumn l.column (entries.lookup "column")
  endColumn : SpellsColumn l.endColumn (entries.lookup "end_column")

theorem optional_of_spellsColumn {column : Option Nat} {v : Json}
    (hfits : ∀ n ∈ column, n < limit64) (hspells : SpellsColumn column (some v)) :
    optional (expectNat "usize") v = .ok column := by
  cases column with
  | some n =>
    cases hspells
    exact congrArg (some <$> ·) (expectNat_nat (hfits n rfl) "usize")
  | none =>
    rcases hspells with hnone | hnull
    · cases hnone
    · cases hnull
      rfl

theorem getD_of_spellsColumn {column : Option Nat} {given : Option Json}
    {field : Option (Option Nat)} (hfits : ∀ n ∈ column, n < limit64)
    (hspells : SpellsColumn column given) (hnone : given = none → field = none)
    (hsome : ∀ v, given = some v → some <$> optional (expectNat "usize") v = .ok field) :
    field.getD none = column := by
  cases given with
  | none =>
    cases column with
    | some n => cases hspells
    | none => rw [hnone rfl, Option.getD_none]
  | some v =>
    have hread := hsome v rfl
    rw [optional_of_spellsColumn hfits hspells] at hread
    rw [← Except.ok.inj hread, Option.getD_some]

theorem decode_of_spells (hfits : l.Fits) (hspells : l.Spells entries) :
    decode (.obj entries) = .ok l := by
  have hread (f : Field) (v : Json) (hv : entries.lookup f.key = some v) :
      ∃ x, some <$> f.read v = .ok x := by
    cases f with
    | file =>
      cases hspells.file.symm.trans hv
      exact ⟨_, rfl⟩
    | line =>
      cases hspells.line.symm.trans hv
      exact ⟨_, congrArg (some <$> ·) (expectNat_nat hfits.line "usize")⟩
    | column =>
      exact ⟨_, congrArg (some <$> ·) (optional_of_spellsColumn hfits.column (hv ▸ hspells.column))⟩
    | endColumn =>
      exact ⟨_, congrArg (some <$> ·)
        (optional_of_spellsColumn hfits.endColumn (hv ▸ hspells.endColumn))⟩
  obtain ⟨draft, hrun, hfield⟩ := decodesRecord.exists_of_lookup hspells.distinct hread
  have hfile : draft.file = some l.file := eq_some_of_map_ok ((hfield .file).2 _ hspells.file) rfl
  have hline : draft.line = some l.line :=
    eq_some_of_map_ok ((hfield .line).2 _ hspells.line) (expectNat_nat hfits.line "usize")
  have hcolumn : draft.column.getD none = l.column :=
    getD_of_spellsColumn hfits.column hspells.column (hfield .column).1 (hfield .column).2
  have hend : draft.endColumn.getD none = l.endColumn :=
    getD_of_spellsColumn hfits.endColumn hspells.endColumn (hfield .endColumn).1
      (hfield .endColumn).2
  unfold decode
  rw [hrun]
  dsimp only [Except.bind, bind]
  rw [hfile, hline, hcolumn, hend]
  rfl

structure Draft.Fits (draft : Draft) : Prop where
  line : ∀ n, draft.line = some n → n < limit64
  column : ∀ n, draft.column = some (some n) → n < limit64
  endColumn : ∀ n, draft.endColumn = some (some n) → n < limit64

theorem Draft.fits_read (draft : Draft) (k : String) (v : Json) (next : Draft)
    (hread : draft.read k v = .ok next) (hfits : draft.Fits) : next.Fits := by
  have hcolumn (x : Option Nat) (hx : optional (expectNat "usize") v = .ok x) :
      ∀ n, some x = some (some n) → n < limit64 := by
    rintro n ⟨⟩
    exact lt_of_expectNat (eq_ok_of_optional hx)
  unfold Draft.read at hread
  split at hread
  · obtain ⟨file, -, ⟨⟩⟩ := ok_of_bind hread
    exact { hfits with }
  · obtain ⟨line, hline, ⟨⟩⟩ := ok_of_bind hread
    refine { hfits with line := ?_ }
    rintro n ⟨⟩
    exact lt_of_expectNat hline
  · obtain ⟨column, hx, ⟨⟩⟩ := ok_of_bind hread
    exact { hfits with column := hcolumn column hx }
  · obtain ⟨column, hx, ⟨⟩⟩ := ok_of_bind hread
    exact { hfits with endColumn := hcolumn column hx }
  · cases hread
    exact hfits

theorem fits_of_decode (hdecode : decode value = .ok l) : l.Fits := by
  have hgiven {given : Option (Option Nat)} {n : Nat} (h : given.getD none = some n) :
      given = some (some n) := by
    cases given with
    | none => cases h
    | some column => exact congrArg some h
  obtain ⟨draft, hrun, hdecode⟩ := ok_of_bind hdecode
  have hempty : ({} : Draft).Fits := ⟨nofun, nofun, nofun⟩
  have hfits : draft.Fits := foldRecord_keeps Draft.fits_read hempty hrun
  obtain ⟨file, -, hdecode⟩ := ok_of_bind hdecode
  obtain ⟨line, hline, hdecode⟩ := ok_of_bind hdecode
  obtain ⟨column, hcolumn, hdecode⟩ := ok_of_bind hdecode
  obtain ⟨endColumn, hend, hdecode⟩ := ok_of_bind hdecode
  cases hdecode
  refine ⟨hfits.line line (eq_some_of_require hline), ?_, ?_⟩
  · rintro n rfl
    refine hfits.column n ?_
    dsimp only at hcolumn
    split at hcolumn
    · exact eq_some_of_require hcolumn
    · exact hgiven (Except.ok.inj hcolumn)
  · rintro n rfl
    refine hfits.endColumn n ?_
    dsimp only at hend
    split at hend
    · exact eq_some_of_require hend
    · exact hgiven (Except.ok.inj hend)

theorem exact_toJson (hfits : l.Fits) : l.toJson.Exact := by
  obtain ⟨file, line, column, endColumn⟩ := l
  have hcolumn (key : String) (column : Option Nat) (hfits : ∀ n ∈ column, n < limit64) :
      ∀ e ∈ (column.map fun n => (key, Json.nat n)).toList, e.2.Exact := by
    cases column with
    | none => nofun
    | some n => simpa using exact_nat (hfits n rfl)
  refine .obj fun e he => ?_
  rcases List.mem_append.mp he with he | he
  · rcases List.mem_append.mp he with he | he
    · simp only [List.mem_cons, List.not_mem_nil, or_false] at he
      rcases he with rfl | rfl
      · exact .str _
      · exact exact_nat hfits.line
    · exact hcolumn _ _ hfits.column e he
  · exact hcolumn _ _ hfits.endColumn e he

theorem spellsColumn_map (column : Option Nat) : SpellsColumn column (column.map Json.nat) := by
  cases column with
  | none => exact .inl rfl
  | some n => rfl

theorem exists_arranged (l : Location) : ∃ sorted, l.toJson.arranged = .obj sorted ∧
    l.Spells sorted ∧ sorted.lookup "column" = l.column.map .nat ∧
      sorted.lookup "end_column" = l.endColumn.map .nat := by
  obtain ⟨file, line, column, endColumn⟩ := l
  obtain ⟨sorted, hobject, hdistinct, hlookup⟩ := Json.exists_arranged
    ([("file", .str file.text), ("line", .nat line)]
      ++ (column.map fun n => ("column", Json.nat n)).toList
      ++ (endColumn.map fun n => ("end_column", Json.nat n)).toList)
    (by cases column <;> cases endColumn <;> simp)
  have hcolumn : sorted.lookup "column" = column.map .nat := by
    rw [hlookup]
    cases column <;> cases endColumn <;> rfl
  have hend : sorted.lookup "end_column" = endColumn.map .nat := by
    rw [hlookup]
    cases column <;> cases endColumn <;> rfl
  exact ⟨sorted, hobject, {
    distinct := hdistinct
    file := hlookup "file"
    line := hlookup "line"
    column := hcolumn ▸ spellsColumn_map column
    endColumn := hend ▸ spellsColumn_map endColumn }, hcolumn, hend⟩

end Location

theorem Severity.decode_toJson (severity : Severity) :
    Severity.decode severity.toJson = .ok severity := by
  cases severity <;> rfl

namespace Diagnostic

variable {d : Diagnostic}

inductive Field where
  | tool
  | rule
  | message
  | severity
  | location

namespace Field

abbrev Value : Field → Type
  | tool | rule | message => String
  | severity => Severity
  | location => Location

def key : Field → String
  | tool => "tool"
  | rule => "rule_id"
  | message => "message"
  | severity => "severity"
  | location => "location"

def read : (f : Field) → Json → Decoded f.Value
  | tool, v | rule, v | message, v => expectString "a string" v
  | severity, v => Severity.decode v
  | location, v => Location.decode v

def get : (f : Field) → Draft → Option f.Value
  | tool, draft => draft.tool
  | rule, draft => draft.rule
  | message, draft => draft.message
  | severity, draft => draft.severity
  | location, draft => draft.location

def set : (f : Field) → Option f.Value → Draft → Draft
  | tool, x, draft => { draft with tool := x }
  | rule, x, draft => { draft with rule := x }
  | message, x, draft => { draft with message := x }
  | severity, x, draft => { draft with severity := x }
  | location, x, draft => { draft with location := x }

end Field

theorem readsFields : ReadsFields Draft.read Field.key Field.get Field.set
    fun f v => some <$> f.read v where
  known := by
    intro draft f v
    cases f <;> simp [Draft.read, Field.key, Field.read, Field.set]
  unknown := by
    intro draft k v hk
    unfold Draft.read
    split
    · exact absurd rfl (hk .tool)
    · exact absurd rfl (hk .rule)
    · exact absurd rfl (hk .message)
    · exact absurd rfl (hk .severity)
    · exact absurd rfl (hk .location)
    · rfl
  get_set := by
    intro draft f x
    cases f <;> rfl
  get_set_of_ne := by
    intro draft f x g hg
    cases f <;> cases g <;> first | rfl | exact absurd rfl hg

theorem decodesRecord : DecodesRecord (foldRecord strictRules "Diagnostic" fields Draft.read {}) {}
    Field.key Field.get Field.set fun f v => some <$> f.read v :=
  decodesRecord_foldRecord readsFields strictRules "Diagnostic" fields {}

/-- An object with what a diagnostic says under its keys, in any order and among others. -/
structure Spells (d : Diagnostic) (entries : List (String × Json)) : Prop where
  distinct : (entries.map Prod.fst).Nodup
  tool : entries.lookup "tool" = some (.str d.tool)
  rule : entries.lookup "rule_id" = some (.str d.rule)
  message : entries.lookup "message" = some (.str d.message)
  severity : entries.lookup "severity" = some d.severity.toJson
  location : ∃ inner, entries.lookup "location" = some (.obj inner) ∧ d.location.Spells inner

theorem decode_of_spells (hfits : d.location.Fits) (hspells : d.Spells entries) :
    decode (.obj entries) = .ok d := by
  obtain ⟨inner, hinner, hlocation⟩ := hspells.location
  have hdecode := Location.decode_of_spells hfits hlocation
  have hread (f : Field) (v : Json) (hv : entries.lookup f.key = some v) :
      ∃ x, some <$> f.read v = .ok x := by
    cases f with
    | tool =>
      cases hspells.tool.symm.trans hv
      exact ⟨_, rfl⟩
    | rule =>
      cases hspells.rule.symm.trans hv
      exact ⟨_, rfl⟩
    | message =>
      cases hspells.message.symm.trans hv
      exact ⟨_, rfl⟩
    | severity =>
      cases hspells.severity.symm.trans hv
      exact ⟨_, congrArg (some <$> ·) d.severity.decode_toJson⟩
    | location =>
      cases hinner.symm.trans hv
      exact ⟨_, congrArg (some <$> ·) hdecode⟩
  obtain ⟨draft, hrun, hfield⟩ := decodesRecord.exists_of_lookup hspells.distinct hread
  have htool : draft.tool = some d.tool := eq_some_of_map_ok ((hfield .tool).2 _ hspells.tool) rfl
  have hrule : draft.rule = some d.rule := eq_some_of_map_ok ((hfield .rule).2 _ hspells.rule) rfl
  have hmessage : draft.message = some d.message :=
    eq_some_of_map_ok ((hfield .message).2 _ hspells.message) rfl
  have hseverity : draft.severity = some d.severity :=
    eq_some_of_map_ok ((hfield .severity).2 _ hspells.severity) d.severity.decode_toJson
  have hplace : draft.location = some d.location :=
    eq_some_of_map_ok ((hfield .location).2 _ hinner) hdecode
  unfold decode
  rw [hrun]
  dsimp only [Except.bind, bind]
  rw [htool, hrule, hmessage, hseverity, hplace]
  rfl

theorem Draft.fits_read (draft : Draft) (k : String) (v : Json) (next : Draft)
    (hread : draft.read k v = .ok next) (hfits : ∀ l, draft.location = some l → l.Fits) :
    ∀ l, next.location = some l → l.Fits := by
  unfold Draft.read at hread
  split at hread
  case h_5 =>
    obtain ⟨l, hl, ⟨⟩⟩ := ok_of_bind hread
    rintro _ ⟨⟩
    exact Location.fits_of_decode hl
  case h_6 =>
    cases hread
    exact hfits
  all_goals
    obtain ⟨x, -, ⟨⟩⟩ := ok_of_bind hread
    exact hfits

theorem fits_of_decode (hdecode : decode value = .ok d) : d.location.Fits := by
  obtain ⟨draft, hrun, hdecode⟩ := ok_of_bind hdecode
  have hempty : ∀ l, ({} : Draft).location = some l → l.Fits := nofun
  have hfits := foldRecord_keeps Draft.fits_read hempty hrun
  obtain ⟨tool, -, hdecode⟩ := ok_of_bind hdecode
  obtain ⟨rule, -, hdecode⟩ := ok_of_bind hdecode
  obtain ⟨message, -, hdecode⟩ := ok_of_bind hdecode
  obtain ⟨severity, -, hdecode⟩ := ok_of_bind hdecode
  obtain ⟨location, hlocation, hdecode⟩ := ok_of_bind hdecode
  cases hdecode
  exact hfits location (eq_some_of_require hlocation)

theorem exact_toJson (hfits : d.location.Fits) : d.toJson.Exact := by
  refine .obj fun e he => ?_
  simp only [List.mem_cons, List.not_mem_nil, or_false] at he
  rcases he with rfl | rfl | rfl | rfl | rfl
  · exact .str _
  · exact .str _
  · exact .str _
  · exact .str _
  · exact Location.exact_toJson hfits

theorem exists_arranged (d : Diagnostic) : ∃ sorted inner, d.toJson.arranged = .obj sorted ∧
    d.Spells sorted ∧ sorted.lookup "location" = some (.obj inner) ∧
      inner.lookup "column" = d.location.column.map .nat ∧
      inner.lookup "end_column" = d.location.endColumn.map .nat := by
  obtain ⟨inner, hinner, hspells, hcolumn, hend⟩ := d.location.exists_arranged
  obtain ⟨sorted, hobject, hdistinct, hlookup⟩ := Json.exists_arranged
    ([("tool", .str d.tool), ("rule_id", .str d.rule), ("message", .str d.message),
      ("severity", d.severity.toJson), ("location", d.location.toJson)]) (by simp)
  have hlocation : sorted.lookup "location" = some (.obj inner) :=
    (hlookup "location").trans (congrArg some hinner)
  exact ⟨sorted, inner, hobject, {
    distinct := hdistinct
    tool := hlookup "tool"
    rule := hlookup "rule_id"
    message := hlookup "message"
    severity := hlookup "severity"
    location := ⟨inner, hlocation, hspells⟩ }, hlocation, hcolumn, hend⟩

def column? (value : Json) (key : String) : Option Json := (value.get? "location").bind (·.get? key)

theorem parse?_jsonText (hfits : d.location.Fits) :
    ∃ value, parse? d.jsonText = some value ∧ decode value = .ok d ∧
      column? value "column" = d.location.column.map .nat ∧
      column? value "end_column" = d.location.endColumn.map .nat := by
  obtain ⟨sorted, inner, harranged, hspells, hlocation, hcolumn, hend⟩ := d.exists_arranged
  have hget (key : String) : column? (.obj sorted) key = inner.lookup key := by
    rw [column?, Json.get?, hlocation]
    rfl
  refine ⟨.obj sorted, ?_, decode_of_spells hfits hspells, ?_, ?_⟩
  · rw [jsonText, parse?_compress (exact_toJson hfits), harranged]
  · rw [hget, hcolumn]
  · rw [hget, hend]

theorem lines_jsonText (hfits : d.location.Fits) :
    (∀ c ∈ d.jsonText.toList, 0x20 ≤ c.toNat) ∧ Text.lines d.jsonText = [d.jsonText] := by
  have hcontrol : ∀ c ∈ d.jsonText.toList, 0x20 ≤ c.toNat := by
    intro c hc
    rw [jsonText, compress, String.toList_ofList] at hc
    exact le_of_mem_writeValue (exact_toJson hfits) hc
  have hnewline : '\n' ∉ d.jsonText.toList := fun hmem => absurd (hcontrol _ hmem) (by decide)
  have hne : d.jsonText.toList ≠ [] := fun hempty =>
    compress_obj_ne _ (String.toList_eq_nil_iff.mp hempty)
  refine ⟨hcontrol, ?_⟩
  rw [Text.lines, Text.splitLines_of_single hne hnewline, List.map_singleton, String.ofList_toList]

/-- Diagnostics with numbers of 64 bits are written on one line, without control characters, and
read back as they are, with the columns they have. Whatever is read as a diagnostic, with its keys
in any order and others among them, is read as the same one when it was written again. -/
theorem json_round_trip :
    (∀ d : Diagnostic, d.location.Fits →
      (∀ c ∈ d.jsonText.toList, 0x20 ≤ c.toNat) ∧ Text.lines d.jsonText = [d.jsonText] ∧
      ∃ value, parse? d.jsonText = some value ∧ decode value = .ok d ∧
        column? value "column" = d.location.column.map .nat ∧
        column? value "end_column" = d.location.endColumn.map .nat) ∧
    ∀ value d, decode value = .ok d →
      ∃ again, parse? d.jsonText = some again ∧ decode again = .ok d := by
  constructor
  · intro d hfits
    obtain ⟨hcontrol, hlines⟩ := lines_jsonText hfits
    exact ⟨hcontrol, hlines, parse?_jsonText hfits⟩
  · intro value d hdecode
    obtain ⟨again, hparse, hagain, -⟩ := parse?_jsonText (fits_of_decode hdecode)
    exact ⟨again, hparse, hagain⟩

theorem json_round_trip_escapes :
    ∃ d : Diagnostic, d.message = "say \"hi\"\n\\ \x01 é" ∧ d.location.Fits ∧
      (Text.lines d.jsonText = [d.jsonText] ∧ ∃ value, parse? d.jsonText = some value ∧
        decode value = .ok d ∧ column? value "column" = some (.nat 18446744073709551615) ∧
        column? value "end_column" = none) ∧
      ∃ value again, column? value "end_column" = some .null ∧ decode value = .ok d ∧
        parse? d.jsonText = some again ∧ decode again = .ok d := by
  let l : Location := { file := ⟨"a\x1b\\b.fish"⟩, line := 3, column := some 18446744073709551615 }
  let d : Diagnostic :=
    { tool := "fish", rule := "", message := "say \"hi\"\n\\ \x01 é", severity := .hint,
      location := l }
  have hfits : l.Fits := ⟨by decide, by rintro n ⟨⟩; decide, nofun⟩
  have hdecode : decode (.obj [("seen", .bool true), ("location", .obj [("end_column", .null),
      ("column", .nat 18446744073709551615), ("line", .nat 3), ("file", .str "a\x1b\\b.fish")]),
      ("severity", .str "hint"), ("message", .str d.message), ("rule_id", .str ""),
      ("tool", .str "fish")]) = .ok d := by
    rfl
  obtain ⟨-, hlines, hread⟩ := json_round_trip.1 d hfits
  obtain ⟨again, hparse, hagain⟩ := json_round_trip.2 _ d hdecode
  exact ⟨d, rfl, hfits, ⟨hlines, hread⟩, _, again, rfl, hdecode, hparse, hagain⟩

end Diagnostic
end ScriptCheck
