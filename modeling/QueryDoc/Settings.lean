/-!
# Settings

What can be chosen about how documents are compiled.  A text literal stands between
single quotes, so that a quote inside it would end it; doubling such quotes keeps
the literal whole.
-/

namespace QueryDoc

inductive Escaping where
  | verbatim
  | doubled
  deriving DecidableEq, Repr

namespace Escaping

def name : Escaping → String
  | .verbatim => "verbatim"
  | .doubled => "doubled"

def ofName? : String → Option Escaping
  | "verbatim" => some .verbatim
  | "doubled" => some .doubled
  | _ => none

theorem ofName?_name (escaping : Escaping) : ofName? escaping.name = some escaping := by
  cases escaping <;> rfl

def doubleQuotes (text : List Char) : List Char :=
  text.flatMap fun c => if c = '\'' then ['\'', '\''] else [c]

def apply : Escaping → String → String
  | .verbatim, text => text
  | .doubled, text => String.ofList (doubleQuotes text.toList)

end Escaping

structure Settings where
  maxDepth : Nat := 32
  escaping : Escaping := .verbatim
  deriving DecidableEq, Repr

namespace Settings

def text (settings : Settings) : String :=
  "\x7b\"max_depth\":" ++ toString settings.maxDepth ++
    ",\"quote_escaping\":\"" ++ settings.escaping.name ++ "\"\x7d"

end Settings

end QueryDoc
