import QueryDoc.CommandLine.Options
import QueryDoc.Session
import QueryDoc.Settings.Reader

/-!
# Running the program

What a run writes and how it ends, as a function of its options and of all it
can find around it: files and standard input, which hold bytes.  Bytes that are no
UTF-8 make a file unreadable; of standard input, whole lines before the first line
that is no UTF-8 may still be used.
-/

namespace QueryDoc.CommandLine

def notText : String := "stream did not contain valid UTF-8"

/-! ## Files -/

inductive Stored where
  | absent (reason : String)
  | unreadable (reason : String)
  | text (content : String)
  deriving DecidableEq, Repr

def Stored.ofBytes (bytes : ByteArray) : Stored :=
  match String.fromUTF8? bytes with
  | some content => .text content
  | none => .unreadable notText

/-! ## Standard input -/

/-- Text, or the lines of text before one that is none. -/
inductive Input where
  | text (content : String)
  | broken (lines : String)
  deriving DecidableEq, Repr

def Input.readable : Input → String
  | .text content => content
  | .broken lines => lines

def byteLines (line : List UInt8) : List UInt8 → List (List UInt8)
  | [] => if line.isEmpty then [] else [line.reverse]
  | byte :: bytes =>
      if byte = 10 then
        (byte :: line).reverse :: byteLines [] bytes
      else
        byteLines (byte :: line) bytes

def textLines : List (List UInt8) → List String
  | [] => []
  | line :: lines =>
      match String.fromUTF8? ⟨line.toArray⟩ with
      | some text => text :: textLines lines
      | none => []

def Input.ofBytes (bytes : ByteArray) : Input :=
  match String.fromUTF8? bytes with
  | some content => .text content
  | none => .broken (String.join (textLines (byteLines [] bytes.toList)))

example : Input.ofBytes ⟨#[97, 10, 255, 10, 98]⟩ = .broken "a\n" := by decide +kernel

/-! ## Surroundings -/

structure Surroundings where
  configVariable : Option String
  terminal : Option String
  find : String → Stored
  input : Input

def Surroundings.empty : Surroundings :=
  { configVariable := none
    terminal := none
    find := fun _ => .absent "No such file or directory (os error 2)"
    input := .text "" }

def defaultConfig : String := "filter_sql.json"

/-! ## Failures -/

inductive Failure where
  | settings (path : String) (error : Settings.LoadError)
  | document (path reason : String)
  | input (reason : String)
  | session (reason : String)

def Failure.message : Failure → String
  | .settings path error =>
      ": ".intercalate
        (["加载配置失败: " ++ path, error.message path] ++ error.source?.toList)
  | .document path reason => "无法读取输入文件 " ++ path ++ ": " ++ reason
  | .input reason => "无法读取标准输入: " ++ reason
  | .session reason => reason ++ ": " ++ reason

structure Outcome where
  exitCode : UInt8
  output : String
  failure : Option Failure := none

def Outcome.failed (failure : Failure) (output : String) : Outcome :=
  { exitCode := 2, output, failure := some failure }

/-! ## Settings -/

def Stored.settings : Stored → Except Settings.LoadError Settings
  | .absent _ => .error .missing
  | .unreadable reason => .error (.unreadable reason)
  | .text content => Settings.ofText content

/-- A named settings file must be right; the default one counts only if it is. -/
def loadSettings (config : Option String) (find : String → Stored) :
    Except Failure Settings :=
  match config with
  | some path => (find path).settings.mapError (.settings path)
  | none =>
      match (find defaultConfig).settings with
      | .ok settings => .ok settings
      | .error _ => .ok {}

def Options.override (options : Options) (settings : Settings) : Settings :=
  { maxDepth := options.maxDepth.getD settings.maxDepth
    escaping := if options.escapeQuotes then .doubled else settings.escaping }

/-! ## Runs -/

/-- Terminals on which lines cannot be edited, so that prompts are written out. -/
def plainTerminals : List String := ["dumb", "cons25", "emacs"]

def isPlain (terminal : Option String) : Bool :=
  terminal.any fun name =>
    plainTerminals.contains (String.ofList (name.toList.map Char.toLower))

def readDocument (file : Option String) (surroundings : Surroundings) :
    Except Failure String :=
  match file with
  | some path =>
      match surroundings.find path with
      | .text content => .ok content
      | .absent reason | .unreadable reason => .error (.document path reason)
  | none =>
      match surroundings.input with
      | .text content => .ok content
      | .broken _ => .error (.input notText)

def runBatch (settings : Settings) (document : String) : Outcome :=
  match compile settings document with
  | .ok query => { exitCode := 0, output := query ++ "\n" }
  | .error error => { exitCode := 1, output := error.message ++ "\n" }

/--
A session fails where its input breaks off, unless it has ended before.  A torn
line stops the run without a message and with an exit code of its own.
-/
def runSession (settings : Settings) (prompts : Bool) (input : Input) : Outcome :=
  let session := Session.transcript settings prompts input.readable
  match session.ending, input with
  | .torn, _ => { exitCode := 101, output := session.text }
  | .exhausted, .broken _ => .failed (.session notText) session.text
  | _, _ => { exitCode := 0, output := session.text }

def run (options : Options) (surroundings : Surroundings) : Outcome :=
  match loadSettings (options.config <|> surroundings.configVariable) surroundings.find with
  | .error failure => .failed failure ""
  | .ok loaded =>
      let settings := options.override loaded
      if options.interactive then
        runSession settings (isPlain surroundings.terminal) surroundings.input
      else
        match readDocument options.file surroundings with
        | .error failure => .failed failure ""
        | .ok document => runBatch settings document

/-- Of help and of misuse nothing but the exit code is decided. -/
def invoke (arguments : List String) (surroundings : Surroundings) : Outcome :=
  match parse arguments with
  | .help => { exitCode := 0, output := "" }
  | .misuse => { exitCode := 2, output := "" }
  | .run options =>
      if options.config.isNone ∧ surroundings.configVariable = some "" then
        { exitCode := 2, output := "" }
      else
        run options surroundings

end QueryDoc.CommandLine
