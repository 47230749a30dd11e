import QueryDoc.Number

/-!
# JSON values

The members of an object keep the order in which their keys first appear, and
no key appears twice: `Json.put` gives a known key its last value in its first
place.
-/

namespace QueryDoc

inductive Json where
  | null
  | bool (value : Bool)
  | number (value : StoredNumber)
  | string (value : String)
  | array (items : List Json)
  | object (members : List (String × Json))

namespace Json

abbrev Members := List (String × Json)

def put (key : String) (value : Json) : Members → Members
  | [] => [(key, value)]
  | (known, old) :: members =>
      if known = key then
        (key, value) :: members
      else
        (known, old) :: put key value members

def ofEntries (entries : Members) : Json :=
  .object (entries.foldl (fun members entry => put entry.1 entry.2 members) [])

def get? (members : Members) (key : String) : Option Json :=
  members.lookup key

/-- What is kept of a number that was read: null, if the number cannot be stored. -/
def ofNumber (number : Number) : Json :=
  (StoredNumber.ofNumber? number).elim .null .number

theorem ofNumber_eq_null_or (number : Number) :
    ofNumber number = .null ∨ ∃ stored, ofNumber number = .number stored := by
  unfold ofNumber
  cases StoredNumber.ofNumber? number with
  | none => exact .inl rfl
  | some stored => exact .inr ⟨stored, rfl⟩

theorem ofNumber_number (stored : StoredNumber) : ofNumber stored.number = .number stored := by
  rw [ofNumber, StoredNumber.ofNumber?_number, Option.elim_some]

end Json

end QueryDoc

/-!
## Compact text

The text of a value as it is quoted in messages: no blanks, and only those
characters escaped that have to be.
-/

namespace QueryDoc.Json

/--
A number has a digit after its point, and an exponent once its point would
stand more than sixteen places to the right or four to the left of its digits;
a tie goes to the even neighbour.
-/
def numberLayout : Decimal.Layout :=
  { tie := .toEven
    positional := fun point => -4 ≤ point ∧ point ≤ 16
    wholeEnd := ['.', '0'] }

def escaped (c : Char) : List Char :=
  match c with
  | '"' => ['\\', '"']
  | '\\' => ['\\', '\\']
  | '\n' => ['\\', 'n']
  | '\r' => ['\\', 'r']
  | '\t' => ['\\', 't']
  | '\x08' => ['\\', 'b']
  | '\x0c' => ['\\', 'f']
  | c =>
      if c.toNat < 32 then
        ['\\', 'u', '0', '0', Nat.digitChar (c.toNat / 16),
          Nat.digitChar (c.toNat % 16)]
      else
        [c]

def quoted (text : String) : String :=
  String.ofList ('"' :: text.toList.flatMap escaped ++ ['"'])

mutual

def compact : Json → String
  | .null => "null"
  | .bool value => if value then "true" else "false"
  | .number value => value.number.text numberLayout
  | .string value => quoted value
  | .array items => "[" ++ ",".intercalate (compactItems items) ++ "]"
  | .object members =>
      "\x7b" ++ ",".intercalate (compactMembers members) ++ "\x7d"

def compactItems : List Json → List String
  | [] => []
  | item :: items => compact item :: compactItems items

def compactMembers : List (String × Json) → List String
  | [] => []
  | (key, value) :: members =>
      (quoted key ++ ":" ++ compact value) :: compactMembers members

end

example : (Json.array [ofNumber (.float 1e16), ofNumber (.float 0.00001)]).compact
    = "[1e+16,0.00001]" := by
  decide +kernel

end QueryDoc.Json
