import ScriptCheck.Text.Blank
import ScriptCheck.Text.Split

/-! What is logged, and which of it is shown: every directive of a filter admits events up
to a level, of all targets or of those whose name it begins. -/

namespace ScriptCheck

inductive LogLevel where
  | error
  | warn
  | info
  | debug
  | trace
deriving DecidableEq, Repr

def LogLevel.rank : LogLevel → Nat
  | error => 1
  | warn => 2
  | info => 3
  | debug => 4
  | trace => 5

def LogLevel.name : LogLevel → String
  | error => "ERROR"
  | warn => "WARN"
  | info => "INFO"
  | debug => "DEBUG"
  | trace => "TRACE"

structure LogEvent where
  level : LogLevel
  target : String
deriving DecidableEq, Repr

structure LogDirective where
  target : Option String
  rank : Nat
deriving DecidableEq, Repr

abbrev LogFilter := List LogDirective

namespace LogFilter

def rank? (word : String) : Option Nat :=
  match word.toLower with
  | "" => some 1
  | "off" => some 0
  | "error" => some 1
  | "warn" => some 2
  | "info" => some 3
  | "debug" => some 4
  | "trace" => some 5
  | lower => if lower.isNat then lower.toNat?.filter (· ≤ 5) else none

def directive? (word : String) : Option LogDirective :=
  let chars := Text.trim word.toList
  match chars.head? with
  | none => none
  | some c =>
    if c.isAlphanum ∨ 0x80 ≤ c.toNat ∨ c = '-' ∨ c = ':' ∨ c = '_' then
      let front := String.ofList (chars.takeWhile (· ≠ '='))
      match chars.dropWhile (· ≠ '=') with
      | [] =>
        match rank? front with
        | some rank => some ⟨none, rank⟩
        | none => some ⟨some front, 5⟩
      | [_] => some ⟨some front, 5⟩
      | _ :: level => (rank? (.ofList level)).map fun rank => ⟨some front, rank⟩
    else none

def parse? (text : String) : Option LogFilter := do
  let words := (Text.split ',' text).filter (· ≠ "")
  let directives ← words.mapM directive?
  pure (if directives.isEmpty then [⟨none, 1⟩] else directives)

def ofText (text : String) : LogFilter := (parse? text).getD [⟨none, LogLevel.warn.rank⟩]

def weight (d : LogDirective) : Nat :=
  match d.target with
  | none => 0
  | some t => t.utf8ByteSize + 1

def concerns (d : LogDirective) (event : LogEvent) : Bool :=
  match d.target with
  | none => true
  | some t => t.toList.isPrefixOf event.target.toList

/-- The directive that says most about the target decides, the last one of equals. -/
def admits (filter : LogFilter) (event : LogEvent) : Bool :=
  let best := (filter.filter (concerns · event)).foldl
    (fun (found : Option LogDirective) d =>
      match found with
      | none => some d
      | some f => if weight f ≤ weight d then some d else found) none
  match best with
  | some d => event.level.rank ≤ d.rank
  | none => false

end LogFilter
end ScriptCheck
