import ScriptCheck.Path

/-! The command line: switches that count anywhere, one command, and what belongs to it. -/

namespace ScriptCheck

inductive Command where
  | lint (paths : List Path) (sarif : Bool)
  | fmt (paths : List Path) (check : Bool)
  | tools
  | init
  | serve
deriving DecidableEq, Repr

structure CommandLine where
  json : Bool
  pretty : Bool
  compact : Bool
  verbose : Bool
  root : Option Path
  command : Command
deriving DecidableEq, Repr

namespace Arguments

inductive Refusal where
  | help
  | version
  | misuse
deriving DecidableEq, Repr

structure Grammar where
  switches : List String
  takesPaths : Bool
  tellsVersion : Bool
deriving DecidableEq, Repr

structure Given where
  switches : List String := []
  root : Option String := none
  paths : List String := []
deriving DecidableEq, Repr

inductive Expecting where
  | word
  | root
  | path
deriving DecidableEq, Repr

abbrev Parsed := Except Refusal

def switchName (c : Char) : String :=
  if c = 'v' then "verbose" else if c = 'h' then "help" else if c = 'V' then "version"
  else ""

def addSwitch (grammar : Grammar) (given : Given) (name : String) : Parsed Given :=
  if name = "help" then throw .help
  else if name = "version" ∧ grammar.tellsVersion then throw .version
  else if name ∈ grammar.switches ∧ name ∉ given.switches then
    pure { given with switches := given.switches ++ [name] }
  else throw .misuse

def addRoot (given : Given) (value : String) : Parsed Given :=
  if given.root.isSome ∨ value = "" then throw .misuse
  else pure { given with root := some value }

def addPath (grammar : Grammar) (given : Given) (value : String) : Parsed Given :=
  if !grammar.takesPaths ∨ value = "" then throw .misuse
  else pure { given with paths := given.paths ++ [value] }

def addLong (grammar : Grammar) (given : Given) (word : List Char) : Parsed (Given × Expecting) :=
  let name := String.ofList (word.takeWhile (· ≠ '='))
  match word.dropWhile (· ≠ '=') with
  | [] =>
    if name = "root" then
      if given.root.isSome then throw .misuse else pure (given, .root)
    else (·, .word) <$> addSwitch grammar given name
  | _ :: value =>
    if name = "root" then (·, .word) <$> addRoot given (.ofList value) else throw .misuse

def addLetters (grammar : Grammar) (given : Given) : List Char → Parsed (Given × Expecting)
  | [] => pure (given, .word)
  | 'r' :: [] => if given.root.isSome then throw .misuse else pure (given, .root)
  | 'r' :: '=' :: value => (·, .word) <$> addRoot given (.ofList value)
  | 'r' :: value => (·, .word) <$> addRoot given (.ofList value)
  | c :: rest => do addLetters grammar (← addSwitch grammar given (switchName c)) rest

def addWord (grammar : Grammar) (given : Given) (expecting : Expecting) (word : String) :
    Parsed (Given × Expecting) :=
  match expecting, word.toList with
  | .path, _ => (·, .path) <$> addPath grammar given word
  | .root, '-' :: _ :: _ => throw .misuse
  | .root, _ => (·, .word) <$> addRoot given word
  | .word, ['-', '-'] => pure (given, .path)
  | .word, '-' :: '-' :: name => addLong grammar given name
  | .word, '-' :: c :: letters => addLetters grammar given (c :: letters)
  | .word, _ => (·, .word) <$> addPath grammar given word

/-- What no single word shows to be wrong: an option without its value, and two switches that
exclude each other. -/
def finish (given : Given) (expecting : Expecting) : Parsed Given :=
  if expecting = .root ∨ ("pretty" ∈ given.switches ∧ "compact" ∈ given.switches) then
    throw .misuse
  else pure given

def addWords (grammar : Grammar) (given : Given) (expecting : Expecting) :
    List String → Parsed Given
  | [] => finish given expecting
  | word :: rest => do
    let (given, expecting) ← addWord grammar given expecting word
    addWords grammar given expecting rest

def globalSwitches : List String := ["json", "pretty", "compact", "verbose"]

def frontGrammar : Grammar := ⟨globalSwitches, false, true⟩

def grammarOf? (name : String) : Option Grammar :=
  match name with
  | "lint" => some ⟨"sarif" :: globalSwitches, true, false⟩
  | "fmt" => some ⟨"check" :: globalSwitches, true, false⟩
  | "tools" => some ⟨globalSwitches, false, false⟩
  | "init" => some ⟨globalSwitches, false, false⟩
  | "serve" => some ⟨"stdio" :: globalSwitches, false, false⟩
  | _ => none

def commandOf (name : String) (given : Given) : Command :=
  let paths := given.paths.map Path.mk
  match name with
  | "lint" => .lint paths ("sarif" ∈ given.switches)
  | "fmt" => .fmt paths ("check" ∈ given.switches)
  | "tools" => .tools
  | "init" => .init
  | _ => .serve

/-- What stands behind the name of the command goes before what stands in front of it. -/
def combine (front : Given) (name : String) (back : Given) : CommandLine :=
  let has (switch : String) : Bool := switch ∈ front.switches ∨ switch ∈ back.switches
  { json := has "json"
    pretty := has "pretty"
    compact := has "compact"
    verbose := has "verbose"
    root := (back.root.or front.root).map Path.mk
    command := commandOf name back }

def help (words : List String) : Refusal :=
  match words with
  | [] => .help
  | [name] => if name = "help" ∨ (grammarOf? name).isSome then .help else .misuse
  | _ => .misuse

def readFront (front : Given) (expecting : Expecting) : List String → Parsed CommandLine
  | [] => throw .misuse
  | word :: rest =>
    match expecting, grammarOf? word with
    | .word, some grammar => do
      let back ← addWords grammar {} .word rest
      let front ← finish front .word
      pure (combine front word back)
    | _, _ => do
      if expecting = .word ∧ word = "help" then throw (help rest)
      let (front, expecting) ← addWord frontGrammar front expecting word
      readFront front expecting rest

def parse (words : List String) : Parsed CommandLine := readFront {} .word words

end Arguments
end ScriptCheck
