import QueryDoc.Json
import QueryDoc.Json.Fault
import QueryDoc.Settings
import QueryDoc.Text.Properties

/-!
# Why a settings file is refused

Beyond the faults of JSON text there are values that do not belong where they
stand, unknown names, and fields given twice.
-/

/-!
## Quoted text

Text in double quotes, with everything escaped that could not be seen or would
be mistaken.
-/

namespace QueryDoc.Text

def codePoint (c : Char) : List Char :=
  '\\' :: 'u' :: '\x7b' :: Nat.toDigits 16 c.toNat ++ ['\x7d']

/-- Of the extending characters, the halfwidth sound marks have a place of their own. -/
def isMark (c : Char) : Bool :=
  isExtending c && c ≠ '\uff9e' && c ≠ '\uff9f'

def isHidden (c : Char) : Bool :=
  isMark c || isIgnorable c || isUnprintable c

def visible (c : Char) : List Char :=
  match c with
  | '"' => ['\\', '"']
  | '\\' => ['\\', '\\']
  | '\n' => ['\\', 'n']
  | '\r' => ['\\', 'r']
  | '\t' => ['\\', 't']
  | '\x00' => ['\\', '0']
  | c => if isHidden c then codePoint c else [c]

def quoted (text : String) : String :=
  String.ofList ('"' :: text.toList.flatMap visible ++ ['"'])

example : quoted "a\"é\x7f" = "\"a\\\"é\\u\x7b7f\x7d\"" := by decide +kernel

end QueryDoc.Text

/-! ## Faults -/

namespace QueryDoc.Settings

inductive Field where
  | maxDepth
  | escaping
  deriving DecidableEq, Repr

def Field.name : Field → String
  | .maxDepth => "max_depth"
  | .escaping => "quote_escaping"

def Field.ofName? : String → Option Field
  | "max_depth" => some .maxDepth
  | "quote_escaping" => some .escaping
  | _ => none

theorem Field.ofName?_name (field : Field) : ofName? field.name = some field := by
  cases field <;> rfl

inductive Misfit where
  | null
  | bool (value : Bool)
  | number (value : Number)
  | string (value : String)
  | array
  | object

def Misfit.phrase : Misfit → String
  | .null => "null"
  | .bool value => "boolean `" ++ toString value ++ "`"
  | .number (.integer value) => "integer `" ++ toString value ++ "`"
  | .number value => "floating point `" ++ value.text Json.numberLayout ++ "`"
  | .string value => "string " ++ Text.quoted value
  | .array => "sequence"
  | .object => "map"

inductive Wanted where
  | settings
  | depth
  | nothing
  deriving DecidableEq, Repr

def Wanted.phrase : Wanted → String
  | .settings => "struct CompilerConfig"
  | .depth => "usize"
  | .nothing => "unit"

inductive Cause where
  | json (cause : Json.Cause)
  | misfit (found : Misfit) (wanted : Wanted)
  | negativeDepth (value : Int)
  | unknownEscaping (name : String)
  | repeatedField (field : Field)

def Cause.message : Cause → String
  | .json cause => cause.message
  | .misfit found wanted =>
      "invalid type: " ++ found.phrase ++ ", expected " ++ wanted.phrase
  | .negativeDepth value =>
      "invalid value: integer `" ++ toString value ++ "`, expected " ++
        Wanted.depth.phrase
  | .unknownEscaping name =>
      "unknown variant `" ++ name ++ "`, expected `verbatim` or `doubled`"
  | .repeatedField field => "duplicate field `" ++ field.name ++ "`"

inductive LoadError where
  | missing
  | unreadable (reason : String)
  | malformed (cause : Cause) (position : Json.Position)

namespace LoadError

def source? : LoadError → Option String
  | .missing => none
  | .unreadable reason => some reason
  | .malformed cause position => some (cause.message ++ " at " ++ position.text)

def message (path : String) (error : LoadError) : String :=
  match error with
  | .missing => "配置文件不存在: " ++ path
  | .unreadable _ => "无法读取配置文件 " ++ path ++ ": " ++ error.source?.getD ""
  | .malformed .. =>
      "无法解析JSON配置文件 " ++ path ++ ": " ++ error.source?.getD ""

end LoadError

end QueryDoc.Settings
