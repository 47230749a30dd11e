import QueryDoc.Proofs.Decimal.Numeral
import QueryDoc.Proofs.Json.Strings

/-!
# JSON text

The texts of JSON values, with blanks between tokens wherever they may stand.  What a
string spells does not matter here, nor how large a number is.
-/

namespace QueryDoc.Json

/-! ## Strings -/

/-- What may stand between the quotes of a string; halves of pairs may stand alone. -/
inductive IsBody : List Char → Prop where
  | nil : IsBody []
  | plain {c : Char} {text : List Char} (plain : Plain c) (rest : IsBody text) : IsBody (c :: text)
  | escape {letter c : Char} {text : List Char} (known : (letter, c) ∈ escapes)
      (rest : IsBody text) : IsBody ('\\' :: letter :: text)
  | unit {number : Nat} {digits text : List Char} (unit : HexUnit digits number)
      (rest : IsBody text) : IsBody ('\\' :: 'u' :: (digits ++ text))

theorem Spells.isBody {content text : List Char} (spells : Spells content text) : IsBody text := by
  induction spells with
  | nil => exact .nil
  | plain plain _ ih => exact .plain plain ih
  | escape known _ ih => exact .escape known ih
  | unit unit _ ih => exact .unit unit ih
  | pair first second _ _ _ _ ih => exact .unit first (.unit second ih)

/-! ## Numbers -/

/-- No zero stands in front of other digits. -/
def IsWhole (text : List Char) : Prop :=
  text = ['0'] ∨ Decimal.IsDigits text ∧ text.head? ≠ some '0'

inductive IsFraction : List Char → Prop where
  | none : IsFraction []
  | point {digits : List Char} (some : Decimal.IsDigits digits) : IsFraction ('.' :: digits)

inductive IsExponent : List Char → Prop where
  | none : IsExponent []
  | marked {mark : Char} {sign digits : List Char} (known : mark ∈ ['e', 'E'])
      (signed : sign ∈ [[], ['+'], ['-']]) (some : Decimal.IsDigits digits) :
      IsExponent (mark :: (sign ++ digits))

inductive IsNumber : List Char → Prop where
  | parts {sign digits fraction exponent : List Char} (signed : sign ∈ [[], ['-']])
      (whole : IsWhole digits) (fractional : IsFraction fraction)
      (exponential : IsExponent exponent) :
      IsNumber (sign ++ (digits ++ (fraction ++ exponent)))

theorem isNumber_of_isWhole {digits : List Char} (whole : IsWhole digits) : IsNumber digits := by
  have bare : IsNumber ([] ++ (digits ++ ([] ++ []))) :=
    .parts List.mem_cons_self whole .none .none
  rwa [List.nil_append, List.append_nil, List.append_nil] at bare

/-! ## Values -/

def Blanks (text : List Char) : Prop :=
  ∀ c ∈ text, isBlank c = true

instance (text : List Char) : Decidable (Blanks text) :=
  List.decidableBAll (isBlank · = true) text

/-- The text with blanks around it. -/
inductive Padded (text : List Char) : List Char → Prop where
  | blanks {before behind : List Char} (first : Blanks before) (last : Blanks behind) :
      Padded text (before ++ (text ++ behind))

theorem padded_self (text : List Char) : Padded text text := by
  have bare : Padded text ([] ++ (text ++ [])) :=
    .blanks (List.forall_mem_nil _) (List.forall_mem_nil _)
  rwa [List.nil_append, List.append_nil] at bare

/-- A key, spelled so, and a value, with a colon between them. -/
inductive IsMember (name value : List Char) : List Char → Prop where
  | colon {key item : List Char} (named : Padded ('"' :: (name ++ ['"'])) key)
      (valued : Padded value item) : IsMember name value (key ++ ':' :: item)

inductive IsScalar : List Char → Prop where
  | null : IsScalar ['n', 'u', 'l', 'l']
  | true : IsScalar ['t', 'r', 'u', 'e']
  | false : IsScalar ['f', 'a', 'l', 's', 'e']
  | number {text : List Char} (number : IsNumber text) : IsScalar text
  | string {text : List Char} (body : IsBody text) : IsScalar ('"' :: (text ++ ['"']))

/-- What a text may be: a value, or what stands between the brackets or the braces of one. -/
inductive Form where
  | value
  | items
  | members
  deriving DecidableEq

inductive Conforms : Form → List Char → Prop where
  | scalar {text : List Char} (scalar : IsScalar text) : Conforms .value text
  | emptyArray {text : List Char} (blanks : Blanks text) :
      Conforms .value ('[' :: (text ++ [']']))
  | array {text : List Char} (items : Conforms .items text) :
      Conforms .value ('[' :: (text ++ [']']))
  | emptyObject {text : List Char} (blanks : Blanks text) :
      Conforms .value ('\x7b' :: (text ++ ['\x7d']))
  | object {text : List Char} (members : Conforms .members text) :
      Conforms .value ('\x7b' :: (text ++ ['\x7d']))
  | item {value text : List Char} (valid : Conforms .value value) (padded : Padded value text) :
      Conforms .items text
  | items {value text others : List Char} (valid : Conforms .value value)
      (padded : Padded value text) (rest : Conforms .items others) :
      Conforms .items (text ++ ',' :: others)
  | member {name value text : List Char} (body : IsBody name) (valid : Conforms .value value)
      (member : IsMember name value text) : Conforms .members text
  | members {name value text others : List Char} (body : IsBody name)
      (valid : Conforms .value value) (member : IsMember name value text)
      (rest : Conforms .members others) : Conforms .members (text ++ ',' :: others)

/-- The members of an object, one at least: each key, and the text of its value. -/
inductive Entries : List (String × List Char) → List Char → Prop where
  | one {key : String} {name value text : List Char} (spelled : Spells key.toList name)
      (valid : Conforms .value value) (member : IsMember name value text) :
      Entries [(key, value)] text
  | more {key : String} {name value text others : List Char}
      {entries : List (String × List Char)} (spelled : Spells key.toList name)
      (valid : Conforms .value value) (member : IsMember name value text)
      (rest : Entries entries others) : Entries ((key, value) :: entries) (text ++ ',' :: others)

/-- The text of an object with such members, and blanks around it. -/
inductive IsObject : List (String × List Char) → List Char → Prop where
  | empty {inside text : List Char} (blanks : Blanks inside)
      (padded : Padded ('\x7b' :: (inside ++ ['\x7d'])) text) : IsObject [] text
  | filled {entries : List (String × List Char)} {inside text : List Char}
      (members : Entries entries inside)
      (padded : Padded ('\x7b' :: (inside ++ ['\x7d'])) text) : IsObject entries text

end QueryDoc.Json
