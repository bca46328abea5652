import ScriptCheck.Json.Decode
import ScriptCheck.Settings.Basic
import ScriptCheck.Toml.Document

/-! Settings from JSON and TOML. Sections and leaves that are missing stay unset, and names
that are not known do not matter. -/

namespace ScriptCheck

open Json

def ColorMode.ofName (name : String) : ColorMode :=
  if name = "always" then .always else if name = "never" then .never else .auto

def ColorMode.decode (rules : Rules) (value : Json) : Decoded ColorMode :=
  ColorMode.ofName <$> expectVariant rules ["auto", "always", "never"] value

def decodePath (value : Json) : Decoded Path := Path.mk <$> expectString "path string" value

def ToolsSection.decode (rules : Rules) : Json → Decoded ToolsSection :=
  foldRecord rules "ToolsSection" ["fish", "fish_indent", "timeout_ms"]
    (fun s key value => do match key with
      | "fish" => pure { s with fish := ← optional decodePath value }
      | "fish_indent" => pure { s with fishIndent := ← optional decodePath value }
      | "timeout_ms" => pure { s with timeoutMs := ← optional (expectNat "u64") value }
      | _ => pure s) {}

def LintSection.decode (rules : Rules) : Json → Decoded LintSection :=
  foldRecord rules "LintConfig" ["on_open", "on_save", "on_change", "debounce_ms"]
    (fun s key value => do match key with
      | "on_open" => pure { s with onOpen := ← optional expectBool value }
      | "on_save" => pure { s with onSave := ← optional expectBool value }
      | "on_change" => pure { s with onChange := ← optional expectBool value }
      | "debounce_ms" => pure { s with debounceMs := ← optional (expectNat "u64") value }
      | _ => pure s) {}

def FormatSection.decode (rules : Rules) : Json → Decoded FormatSection :=
  foldRecord rules "FormatConfig" ["enabled"]
    (fun s key value => do match key with
      | "enabled" => pure { s with enabled := ← optional expectBool value }
      | _ => pure s) {}

def PrettySection.decode (rules : Rules) : Json → Decoded PrettySection :=
  foldRecord rules "PrettyConfig" ["enabled", "colors"]
    (fun s key value => do match key with
      | "enabled" => pure { s with enabled := ← optional expectBool value }
      | "colors" => pure { s with colors := ← optional (ColorMode.decode rules) value }
      | _ => pure s) {}

namespace Settings

def decode (rules : Rules) : Json → Decoded Settings :=
  foldRecord rules "GillConfig" ["tools", "lint", "format", "pretty"]
    (fun s key value => do match key with
      | "tools" => pure { s with tools := ← ToolsSection.decode rules value }
      | "lint" => pure { s with lint := ← LintSection.decode rules value }
      | "format" => pure { s with format := ← FormatSection.decode rules value }
      | "pretty" => pure { s with pretty := ← PrettySection.decode rules value }
      | _ => pure s) {}

/-- Settings an editor sends, alone or under the key `gill`. Null sets nothing. -/
def ofClient (value : Json) : Decoded Settings :=
  match (value.get? "gill").getD value with
  | .null => pure {}
  | v => decode strictRules v

def clientMessage (e : DecodeError) : String := "invalid client settings: " ++ e.message

def tomlRules : Rules where
  surplusItems := true
  payload
    | .obj [] => pure ()
    | .arr [] => pure ()
    | v => throw (.invalidType v.shape "table")

def ofToml? (text : String) : Option Settings :=
  match Toml.parse? text with
  | none => none
  | some document => (decode tomlRules document.toJson).toOption

end Settings
end ScriptCheck
