import ScriptCheck.Path
import ScriptCheck.Settings.Layered

/-! The settings, section by section. A leaf that is not set takes its default when it is
asked for, so that layers can be told apart until then. -/

namespace ScriptCheck

inductive ColorMode where
  | auto
  | always
  | never
deriving DecidableEq, Repr

def ColorMode.name : ColorMode → String
  | auto => "auto"
  | always => "always"
  | never => "never"

structure ToolsSection where
  fish : Option Path := none
  fishIndent : Option Path := none
  timeoutMs : Option Nat := none
deriving DecidableEq, Repr

structure LintSection where
  onOpen : Option Bool := none
  onSave : Option Bool := none
  onChange : Option Bool := none
  debounceMs : Option Nat := none
deriving DecidableEq, Repr

structure FormatSection where
  enabled : Option Bool := none
deriving DecidableEq, Repr

structure PrettySection where
  enabled : Option Bool := none
  colors : Option ColorMode := none
deriving DecidableEq, Repr

structure Settings where
  tools : ToolsSection := {}
  lint : LintSection := {}
  format : FormatSection := {}
  pretty : PrettySection := {}
deriving DecidableEq, Repr

open Layered

instance : Layered ToolsSection where
  overlay base top := {
    fish := overlay base.fish top.fish
    fishIndent := overlay base.fishIndent top.fishIndent
    timeoutMs := overlay base.timeoutMs top.timeoutMs }

instance : Layered LintSection where
  overlay base top := {
    onOpen := overlay base.onOpen top.onOpen
    onSave := overlay base.onSave top.onSave
    onChange := overlay base.onChange top.onChange
    debounceMs := overlay base.debounceMs top.debounceMs }

instance : Layered FormatSection where
  overlay base top := { enabled := overlay base.enabled top.enabled }

instance : Layered PrettySection where
  overlay base top := {
    enabled := overlay base.enabled top.enabled
    colors := overlay base.colors top.colors }

instance : Layered Settings where
  overlay base top := {
    tools := overlay base.tools top.tools
    lint := overlay base.lint top.lint
    format := overlay base.format top.format
    pretty := overlay base.pretty top.pretty }

structure Toolchain where
  fish : Path
  fishIndent : Path
  timeoutMs : Option Nat
deriving DecidableEq, Repr

def ToolsSection.toolchain (tools : ToolsSection) : Toolchain where
  fish := tools.fish.getD ⟨"fish"⟩
  fishIndent := tools.fishIndent.getD ⟨"fish_indent"⟩
  timeoutMs := match tools.timeoutMs with
    | some 0 => none
    | some ms => some ms
    | none => some 10000

namespace LintSection

def lintsOnOpen (lint : LintSection) : Bool := lint.onOpen.getD true

def lintsOnSave (lint : LintSection) : Bool := lint.onSave.getD true

def lintsOnChange (lint : LintSection) : Bool := lint.onChange.getD false

def quietMs (lint : LintSection) : Nat := lint.debounceMs.getD 300

end LintSection

def FormatSection.isEnabled (format : FormatSection) : Bool := format.enabled.getD true

structure Screen where
  isTerminal : Bool
  noColor : Bool
deriving DecidableEq, Repr

namespace PrettySection

def isEnabled (pretty : PrettySection) (screen : Screen) : Bool :=
  pretty.enabled.getD screen.isTerminal

def usesColors (pretty : PrettySection) (screen : Screen) : Bool :=
  if screen.noColor then false
  else match pretty.colors.getD .auto with
    | .always => true
    | .never => false
    | .auto => screen.isTerminal

end PrettySection
end ScriptCheck
