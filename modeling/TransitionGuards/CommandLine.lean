import TransitionGuards.Config.Document
import TransitionGuards.Machine.Document
import TransitionGuards.Request
import TransitionGuards.Verdict.Document

/-
  The command line: what its arguments mean and what a run answers.

  Reading the arguments is a function of the arguments alone (`Invocation.parse`).
  A run (`Invocation.run`) reads files and standard input through `Sources`, in
  any monad, so it can be followed without touching a file system.
-/

namespace TransitionGuards

inductive Command where
  | checkGuards
  | checkCompleteness
  | analyzeMachine
  deriving DecidableEq, Repr, Inhabited

def Command.ofName? : String → Option Command
  | "check-guards" => some .checkGuards
  | "check-completeness" => some .checkCompleteness
  | "analyze-fsm" => some .analyzeMachine
  | _ => none

structure Options where
  config : Option String
  strict : Bool
  precedence : Option Precedence
  backend : Option BackendKind
  timeoutMs : Option UInt64
  deriving DecidableEq, Inhabited

def Options.none : Options := ⟨.none, false, .none, .none, .none⟩

/-- The options of both places; those behind the command win. -/
def Options.merge (before after : Options) : Options where
  config := after.config.or before.config
  strict := before.strict || after.strict
  precedence := after.precedence.or before.precedence
  backend := after.backend.or before.backend
  timeoutMs := after.timeoutMs.or before.timeoutMs

inductive Invocation where
  | version
  /-- The arguments make no sense. -/
  | misuse
  | perform (command : Command) (options : Options) (input : Option String)
  deriving DecidableEq, Inhabited

namespace Options

/-- A decimal number below `2 ^ 64`, with an optional plus sign. -/
def readUInt64 (s : String) : Option UInt64 :=
  let ds := match s.toList with
    | '+' :: rest => rest
    | cs => cs
  if isDigits ds then
    let n := digitsValue ds
    if n ≤ maxUInt64 then some n.toUInt64 else .none
  else .none

/-- Sets the option that takes a value, unless it is set or the value does not
fit. -/
def set? (o : Options) (name value : String) : Option Options :=
  match name with
  | "config" => if o.config.isSome || value.isEmpty then .none else some { o with config := some value }
  | "precedence" =>
    if o.precedence.isSome then .none
    else (Precedence.names.lookup value).map fun p => { o with precedence := some p }
  | "backend" =>
    if o.backend.isSome then .none
    else (BackendKind.names.lookup value).map fun b => { o with backend := some b }
  | "timeout-ms" =>
    if o.timeoutMs.isSome then .none
    else (readUInt64 value).map fun n => { o with timeoutMs := some n }
  | _ => .none

end Options

namespace Invocation

/-- Cuts a text at its first `=`. -/
def splitAtEquals (s : List Char) : List Char × Option (List Char) :=
  match s.dropWhile (· != '=') with
  | [] => (s, none)
  | _ :: value => (s.takeWhile (· != '='), some value)

/-- Whether the argument looks like an option, so that it is no value of the
option before it. -/
def isOptionLike (arg : String) : Bool :=
  match arg.toList with
  | '-' :: _ :: _ => true
  | _ => false

/-- Reads what follows the command: options and at most one input. `plain` says
that options have ended. -/
def parseInput (command : Command) (before : Options) (plain : Bool) (options : Options) (input : Option String) :
    List String → Invocation
  | [] => .perform command (before.merge options) input
  | arg :: rest =>
    if plain || !isOptionLike arg then
      if input.isSome || arg.isEmpty then .misuse
      else parseInput command before plain options (some arg) rest
    else if arg = "--" then parseInput command before true options input rest
    else if arg = "--strict" then
      if options.strict then .misuse
      else parseInput command before plain { options with strict := true } input rest
    else match arg.toList with
      | '-' :: '-' :: name =>
        match splitAtEquals name with
        | (name, some value) =>
          match options.set? (String.ofList name) (String.ofList value) with
          | some options => parseInput command before plain options input rest
          | none => .misuse
        | (name, none) =>
          match rest with
          | value :: rest =>
            if isOptionLike value then .misuse
            else match options.set? (String.ofList name) value with
              | some options => parseInput command before plain options input rest
              | none => .misuse
          | [] => .misuse
      | _ => .misuse

/-- Reads the arguments up to the command. -/
def parseCommand (options : Options) : List String → Invocation
  | [] => .misuse
  | arg :: rest =>
    if arg = "--version" ∨ arg.startsWith "-V" then .version
    else if arg = "--strict" then
      if options.strict then .misuse else parseCommand { options with strict := true } rest
    else if !isOptionLike arg then
      match Command.ofName? arg with
      | some command => parseInput command options false .none none rest
      | none => .misuse
    else match arg.toList with
      | '-' :: '-' :: name =>
        match splitAtEquals name with
        | (name, some value) =>
          match options.set? (String.ofList name) (String.ofList value) with
          | some options => parseCommand options rest
          | none => .misuse
        | (name, none) =>
          match rest with
          | value :: rest =>
            if isOptionLike value then .misuse
            else match options.set? (String.ofList name) value with
              | some options => parseCommand options rest
              | none => .misuse
          | [] => .misuse
      | _ => .misuse

def parse (args : List String) : Invocation := parseCommand .none args

end Invocation

/-! ## Running -/

/-- Where a run gets its texts from. A file that cannot be read is `none`. -/
structure Sources (m : Type → Type) where
  file : String → m (Option String)
  input : m (Option String)

/-- What a run leaves behind: text on standard output, or a complaint. -/
inductive Ending where
  | output (text : String)
  /-- The run failed; the message says at what. -/
  | failure (message : String)
  | misuse
  deriving DecidableEq, Inhabited

def Ending.code : Ending → Nat
  | .output _ => 0
  | .failure _ => 1
  | .misuse => 2

namespace Invocation

/-- The settings with the options applied over them. -/
def applyOptions (options : Options) (c : Config) : Config where
  backend := options.backend.getD c.backend
  precedence := options.precedence.getD c.precedence
  strict := options.strict || c.strict
  timeoutMs := options.timeoutMs.or c.timeoutMs
  maxDecisions := c.maxDecisions

variable {m : Type → Type} [Monad m]

/-- The settings of a run: those of the file, if one is named, and the options
over them. -/
def loadConfig (sources : Sources m) (options : Options) : m (Except String Config) :=
  match options.config with
  | none => pure (.ok (applyOptions options .default))
  | some path => do
    match ← sources.file path with
    | none => pure (.error ("loading config " ++ path))
    | some text =>
      match decodeText decodeConfig text with
      | .error _ => pure (.error ("loading config " ++ path))
      | .ok c => pure (.ok (applyOptions options c))

def loadInput (sources : Sources m) : Option String → m (Except String String)
  | none => do
    match ← sources.input with
    | none => pure (.error "reading stdin")
    | some text => pure (.ok text)
  | some path => do
    match ← sources.file path with
    | none => pure (.error ("reading " ++ path))
    | some text => pure (.ok text)

/-- Decodes the text, works on what it says and prints the answer. -/
def answer {α β : Type} (decode : Decode α) (what : String) (work : α → m β) (encode : β → Json) (text : String) :
    m Ending :=
  match decodeText decode text with
  | .error _ => pure (.failure ("decoding " ++ what))
  | .ok request => do
    let result ← work request
    pure (.output ((encode result).pretty ++ "\n"))

/-- Carries out a command on a text. -/
def carryOut (analyzer : Analyzer m) (command : Command) (text : String) : m Ending :=
  match command with
  | .checkGuards =>
    answer decodePairRequest "guard pair request" analyzer.answerPair SatisfiabilityVerdict.toJson text
  | .checkCompleteness =>
    answer decodeCompletenessRequest "completeness request" analyzer.answerCompleteness CompletenessVerdict.toJson text
  | .analyzeMachine => answer decodeMachine "FSM definition" analyzer.analyze Report.toJson text

/-- Does what is asked for. -/
def run (sources : Sources m) (clock : Clock) : Invocation → m Ending
  | .version => pure (.output "guardcheck 0.1.0\n")
  | .misuse => pure .misuse
  | .perform command options input => do
    match ← loadConfig sources options with
    | .error message => pure (.failure message)
    | .ok config =>
      match ← loadInput sources input with
      | .error message => pure (.failure message)
      | .ok text => carryOut (.ofConfig clock config) command text

end Invocation

end TransitionGuards
