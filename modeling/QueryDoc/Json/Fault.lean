/-!
# Faults in JSON text

A fault is a cause and a place.  The place is what was left to read together
with the number of bytes of it that had been looked at; line and column follow
from the bytes before that point.
-/

namespace QueryDoc.Json

/-! ## Causes -/

inductive Cause where
  | unfinishedValue
  | unfinishedList
  | unfinishedObject
  | unfinishedString
  | noValue
  | unknownWord
  | noColon
  | noListSeparator
  | noObjectSeparator
  | trailingComma
  | trailingCharacters
  | keyNotString
  | invalidEscape
  | controlCharacter
  | loneSurrogate
  | unfinishedSurrogate
  | invalidNumber
  | numberOutOfRange
  | tooManyLevels
  deriving DecidableEq, Repr

def Cause.message : Cause → String
  | .unfinishedValue => "EOF while parsing a value"
  | .unfinishedList => "EOF while parsing a list"
  | .unfinishedObject => "EOF while parsing an object"
  | .unfinishedString => "EOF while parsing a string"
  | .noValue => "expected value"
  | .unknownWord => "expected ident"
  | .noColon => "expected `:`"
  | .noListSeparator => "expected `,` or `]`"
  | .noObjectSeparator => "expected `,` or `\x7d`"
  | .trailingComma => "trailing comma"
  | .trailingCharacters => "trailing characters"
  | .keyNotString => "key must be a string"
  | .invalidEscape => "invalid escape"
  | .controlCharacter =>
      "control character (\\u0000-\\u001F) found while parsing a string"
  | .loneSurrogate => "lone leading surrogate in hex escape"
  | .unfinishedSurrogate => "unexpected end of hex escape"
  | .invalidNumber => "invalid number"
  | .numberOutOfRange => "number out of range"
  | .tooManyLevels => "recursion limit exceeded"

/-! ## Places -/

/-- Lines count from one, columns count the bytes since the line began. -/
structure Position where
  line : Nat
  column : Nat
  deriving DecidableEq, Repr

/-- Each character once for every byte of its encoding. -/
def bytes (text : List Char) : List Char :=
  text.flatMap fun c => List.replicate c.utf8Size c

def Position.behind (before : List Char) : Position :=
  { line := before.count '\n' + 1
    column := (before.reverse.takeWhile (· != '\n')).length }

def Position.text (position : Position) : String :=
  "line " ++ toString position.line ++ " column " ++ toString position.column

/--
A cause of some kind, what was left to read when it was found, and how many
bytes of that had been looked at.
-/
structure Fault (κ : Type) where
  cause : κ
  rest : List Char
  ahead : Nat
  deriving DecidableEq, Repr

namespace Fault

def here {κ : Type} (cause : κ) (rest : List Char) : Fault κ :=
  ⟨cause, rest, 0⟩

def next {κ : Type} (cause : κ) (rest : List Char) : Fault κ :=
  ⟨cause, rest, 1⟩

def map {κ μ : Type} (f : κ → μ) (fault : Fault κ) : Fault μ :=
  ⟨f fault.cause, fault.rest, fault.ahead⟩

def position {κ : Type} (text : List Char) (fault : Fault κ) : Position :=
  let done := text.take (text.length - fault.rest.length)
  .behind (bytes done ++ (bytes fault.rest).take fault.ahead)

end Fault

end QueryDoc.Json
