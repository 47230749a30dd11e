import QueryDoc.Number

/-!
# Command line options

Arguments are read from left to right.  Each option may be given once; long
options are written in full, with their value behind `=` or as the next
argument, and short ones may share a dash.
-/

namespace QueryDoc.CommandLine

structure Options where
  /-- The document; without one, standard input is read. -/
  file : Option String := none
  config : Option String := none
  maxDepth : Option Nat := none
  escapeQuotes : Bool := false
  interactive : Bool := false
  verbose : Bool := false
  deriving DecidableEq, Repr

inductive Invocation where
  | run (options : Options)
  | help
  | misuse
  deriving DecidableEq, Repr

/-! ## Single options -/

inductive Choice where
  | file (path : List Char)
  | config (path : List Char)
  | maxDepth (text : List Char)
  | escapeQuotes
  | interactive
  | verbose
  | help
  | unknown
  deriving DecidableEq, Repr

def path? (text : List Char) : Option String :=
  if text.isEmpty then none else some (String.ofList text)

/-- The value of an option that had none before. -/
def first {α : Type} (before value : Option α) : Option (Option α) :=
  match before, value with
  | none, some value => some (some value)
  | _, _ => none

def raise (before : Bool) : Option Bool :=
  if before then none else some true

def Options.choose (options : Options) : Choice → Option Options
  | .file path => do
      return { options with file := ← first options.file (path? path) }
  | .config path => do
      return { options with config := ← first options.config (path? path) }
  | .maxDepth text => do
      return { options with maxDepth := ← first options.maxDepth (Text.unsigned? text) }
  | .escapeQuotes => do
      return { options with escapeQuotes := ← raise options.escapeQuotes }
  | .interactive => do
      return { options with interactive := ← raise options.interactive }
  | .verbose => do
      return { options with verbose := ← raise options.verbose }
  | .help | .unknown => none

/-- Takes the choices in order; the first that is no option decides. -/
def Options.chooseAll (options : Options) : List Choice → Invocation
  | [] => .run options
  | .help :: _ => .help
  | choice :: choices =>
      match options.choose choice with
      | some options => options.chooseAll choices
      | none => .misuse

/-! ## Reading arguments -/

inductive Argument where
  | choices (choices : List Choice)
  /-- An option whose value is the next argument. -/
  | awaiting (choice : List Char → Choice)
  | filesOnly

def letter : Char → Choice
  | 'i' => .interactive
  | 'v' => .verbose
  | 'h' => .help
  | _ => .unknown

def valued? (name : List Char) : Option (List Char → Choice) :=
  if name = ['c', 'o', 'n', 'f', 'i', 'g'] then
    some .config
  else if name = ['m', 'a', 'x', '-', 'd', 'e', 'p', 't', 'h'] then
    some .maxDepth
  else
    none

def flag (name : String) : Choice :=
  match name with
  | "escape-quotes" => .escapeQuotes
  | "interactive" => .interactive
  | "verbose" => .verbose
  | "help" => .help
  | _ => .unknown

def long (text : List Char) : Argument :=
  match valued? (text.takeWhile (· != '=')), text.dropWhile (· != '=') with
  | some choice, _ :: value => .choices [choice value]
  | some choice, [] => .awaiting choice
  | none, _ => .choices [flag (String.ofList text)]

def argument : List Char → Argument
  | ['-', '-'] => .filesOnly
  | '-' :: '-' :: text => long text
  | '-' :: c :: text => .choices ((c :: text).map letter)
  | text => .choices [.file text]

/-- An argument that cannot be the value of the option before it. -/
def isDashed : List Char → Bool
  | '-' :: _ :: _ => true
  | _ => false

def choices : List String → List Choice
  | [] => []
  | text :: arguments =>
      match argument text.toList with
      | .choices found => found ++ choices arguments
      | .filesOnly => arguments.map (.file ·.toList)
      | .awaiting choice =>
          match arguments with
          | [] => [.unknown]
          | value :: rest =>
              if isDashed value.toList then
                [.unknown]
              else
                choice value.toList :: choices rest

def parse (arguments : List String) : Invocation :=
  ({} : Options).chooseAll (choices arguments)

example : parse ["-iv", "--max-depth=+7", "--", "-x"] =
    .run { interactive := true, verbose := true, maxDepth := some 7, file := some "-x" } := by
  decide +kernel
example : parse ["--config", "-c"] = .misuse := by decide +kernel
example : parse ["-ih"] = .help := by decide +kernel

end QueryDoc.CommandLine
