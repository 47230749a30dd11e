import Mathlib.Data.List.TakeWhile
import QueryDoc.Key

/-!
# Where a key is split

A key that is no connective is split behind its operator token: the longest run of operator
characters at the front that leaves a character to the field.  It is the same place whether
characters are counted or the bytes of their encoding.

Main statements: `splits_iff`, `splits_append_iff` and `Splits.operatorBytes_eq`.
-/

namespace QueryDoc.Key

/-! ## Operator characters in front of a field -/

/-- The key is a token and a field, and only an empty key goes without a field. -/
structure Fits (key token field : String) : Prop where
  whole : key = token ++ field
  operators : ∀ c ∈ token.toList, isOperatorChar c = true
  field_ne_empty : key ≠ "" → field ≠ ""

structure Splits (key token field : String) : Prop extends Fits key token field where
  longest : ∀ other rest, Fits key other rest → other.length ≤ token.length

theorem operatorLength_append {token : List Char}
    (operators : ∀ c ∈ token, isOperatorChar c = true) (field : List Char) :
    operatorLength (token ++ field) =
      min (token.length + (field.takeWhile isOperatorChar).length)
        (token.length + field.length - 1) := by
  rw [operatorLength, List.takeWhile_append_of_pos operators, List.length_append,
    List.length_append]

theorem Fits.length_le {key token field : String} (fits : Fits key token field) :
    token.length ≤ operatorLength key.toList := by
  obtain ⟨rfl, operators, nonempty⟩ := fits
  rw [String.toList_append, operatorLength_append operators, String.length_toList,
    String.length_toList]
  by_cases empty : field = ""
  · have none : token = "" := by simpa [empty] using nonempty
    simp [none]
  · have some : field.length ≠ 0 := by simpa using empty
    omega

theorem fits_iff {key token field : String} :
    Fits key token field ↔ key = token ++ field ∧ token.length ≤ operatorLength key.toList := by
  refine ⟨fun fits => ⟨fits.whole, fits.length_le⟩, ?_⟩
  rintro ⟨whole, short⟩
  have letters : key.toList = token.toList ++ field.toList := by
    rw [whole, String.toList_append]
  rw [operatorLength, Nat.le_min, ← String.length_toList] at short
  have run : token.toList <+: key.toList.takeWhile isOperatorChar :=
    List.prefix_of_prefix_length_le ⟨field.toList, letters.symm⟩
      (List.takeWhile_prefix isOperatorChar) short.1
  refine ⟨whole, fun c member => List.mem_takeWhile_imp (run.subset member), ?_⟩
  rintro nonempty rfl
  have some : key.toList.length ≠ 0 := by simpa using nonempty
  have all : key.toList.length = token.toList.length := by simp [letters]
  omega

def parts (key : String) : String × String :=
  (String.ofList (key.toList.take (operatorLength key.toList)),
    String.ofList (key.toList.drop (operatorLength key.toList)))

theorem parts_eq (key : String) :
    key = (parts key).1 ++ (parts key).2 ∧
      (parts key).1.length = operatorLength key.toList := by
  constructor
  · rw [parts, ← String.ofList_append, List.take_append_drop, String.ofList_toList]
  · have within : operatorLength key.toList ≤ key.toList.length - 1 := Nat.min_le_right _ _
    rw [parts, String.length_ofList, List.length_take]
    omega

theorem splits_iff {key token field : String} :
    Splits key token field ↔
      key = token ++ field ∧ token.length = operatorLength key.toList := by
  constructor
  · intro splits
    obtain ⟨whole, length⟩ := parts_eq key
    have fits := fits_iff.mpr ⟨whole, Nat.le_of_eq length⟩
    have longest := splits.longest _ _ fits
    rw [length] at longest
    exact ⟨splits.whole, Nat.le_antisymm splits.length_le longest⟩
  · rintro ⟨whole, length⟩
    refine ⟨fits_iff.mpr ⟨whole, Nat.le_of_eq length⟩, fun other rest fits => ?_⟩
    rw [length]
    exact fits.length_le

def split (key : String) : { parts : String × String // Splits key parts.1 parts.2 } :=
  ⟨parts key, splits_iff.mpr (parts_eq key)⟩

theorem exists_splits (key : String) : ∃ token field, Splits key token field :=
  ⟨_, _, (split key).property⟩

theorem Splits.eq {key token field other rest : String} (splits : Splits key token field)
    (again : Splits key other rest) : other = token ∧ rest = field := by
  have sameLength : other.toList.length = token.toList.length := by
    rw [String.length_toList, String.length_toList, (splits_iff.mp again).2,
      (splits_iff.mp splits).2]
  have same : other.toList ++ rest.toList = token.toList ++ field.toList := by
    rw [← String.toList_append, ← again.whole, splits.whole, String.toList_append]
  rw [← String.toList_inj, ← String.toList_inj]
  exact List.append_inj same sameLength

theorem Splits.field_eq_empty_iff {key token field : String} (splits : Splits key token field) :
    field = "" ↔ key = "" := by
  constructor
  · intro empty
    by_contra nonempty
    exact splits.field_ne_empty nonempty empty
  · rintro rfl
    exact (String.append_eq_empty_iff.mp splits.whole.symm).2

/-! ## Fields that begin with an operator character -/

def isPlain (field : String) : Bool :=
  !field.toList.head?.any isOperatorChar

theorem length_takeWhile_eq_zero_iff {field : String} :
    (field.toList.takeWhile isOperatorChar).length = 0 ↔ isPlain field = true := by
  unfold isPlain
  cases field.toList with
  | nil => simp
  | cons c rest => cases operator : isOperatorChar c <;> simp [operator]

/-- A key is split behind a token unless the field can spare an operator character. -/
theorem splits_append_iff {token field : String}
    (operators : ∀ c ∈ token.toList, isOperatorChar c = true) :
    Splits (token ++ field) token field ↔
      (field = "" → token = "") ∧ (isPlain field = true ∨ field.length = 1) := by
  have run : (field.toList.takeWhile isOperatorChar).length ≤ field.length := by
    rw [← String.length_toList]
    exact (List.takeWhile_prefix isOperatorChar).length_le
  rw [splits_iff, String.toList_append, operatorLength_append operators,
    String.length_toList, String.length_toList, ← length_takeWhile_eq_zero_iff,
    ← String.length_eq_zero_iff, ← String.length_eq_zero_iff]
  simp only [true_and]
  omega

theorem Splits.of_isPlain_eq_false {key token field : String} (splits : Splits key token field)
    (operator : isPlain field = false) :
    (∀ c ∈ key.toList, isOperatorChar c = true) ∧ field.length = 1 := by
  have operators := splits.operators
  obtain rfl := splits.whole
  have single : field.length = 1 := by
    simpa [operator] using ((splits_append_iff operators).mp splits).2
  obtain ⟨c, form⟩ := List.length_eq_one_iff.mp (String.length_toList.trans single)
  rw [isPlain, form] at operator
  refine ⟨?_, single⟩
  rw [String.toList_append, form, List.forall_mem_append]
  exact ⟨operators, by simpa using operator⟩

/-! ## Counting bytes -/

def isOperatorByte (byte : UInt8) : Bool :=
  byte = '<'.toUInt8 || byte = '>'.toUInt8 || byte = '='.toUInt8 || byte = '!'.toUInt8

/-- The length of the operator token if all is counted in bytes. -/
def operatorBytes (key : String) : Nat :=
  min (key.toUTF8.data.toList.takeWhile isOperatorByte).length (key.utf8ByteSize - 1)

def operatorCodes : List Nat := [60, 62, 61, 33]

theorem isOperatorChar_iff {c : Char} : isOperatorChar c = true ↔ c.toNat ∈ operatorCodes := by
  simp [isOperatorChar, operatorCodes, ← Char.toNat_inj, or_assoc]

theorem isOperatorByte_iff {byte : UInt8} :
    isOperatorByte byte = true ↔ byte.toNat ∈ operatorCodes := by
  have codes : '<'.toUInt8.toNat = 60 ∧ '>'.toUInt8.toNat = 62 ∧ '='.toUInt8.toNat = 61 ∧
      '!'.toUInt8.toNat = 33 := by decide
  simp [isOperatorByte, operatorCodes, ← UInt8.toNat_inj, or_assoc, codes]

theorem exists_utf8EncodeChar (c : Char) :
    ∃ byte rest, String.utf8EncodeChar c = byte :: rest ∧
      (byte.toNat = c.toNat ∧ rest = [] ∨ 127 < byte.toNat ∧ 127 < c.toNat) := by
  have code : c.val.toNat = c.toNat := rfl
  unfold String.utf8EncodeChar
  dsimp only
  rw [code]
  split_ifs
  · refine ⟨_, _, rfl, .inl ⟨?_, rfl⟩⟩
    rw [UInt8.toNat_ofNat']
    omega
  all_goals
    refine ⟨_, _, rfl, .inr ⟨?_, by omega⟩⟩
    rw [UInt8.toNat_ofNat']
    omega

theorem exists_firstByte (c : Char) :
    ∃ byte rest, String.utf8EncodeChar c = byte :: rest ∧
      isOperatorByte byte = isOperatorChar c ∧ (isOperatorChar c = true → rest = []) := by
  have ascii : ∀ code ∈ operatorCodes, code ≤ 127 := by decide
  obtain ⟨byte, rest, form, ⟨same, alone⟩ | ⟨byteHigh, high⟩⟩ := exists_utf8EncodeChar c
  · refine ⟨byte, rest, form, ?_, fun _ => alone⟩
    rw [Bool.eq_iff_iff, isOperatorByte_iff, isOperatorChar_iff, same]
  · have byteOther : isOperatorByte byte = false := by
      rw [Bool.eq_false_iff, ne_eq, isOperatorByte_iff]
      exact fun member => Nat.not_le_of_lt byteHigh (ascii _ member)
    have other : isOperatorChar c = false := by
      rw [Bool.eq_false_iff, ne_eq, isOperatorChar_iff]
      exact fun member => Nat.not_le_of_lt high (ascii _ member)
    exact ⟨byte, rest, form, by rw [byteOther, other], by simp [other]⟩

theorem length_takeWhile_bytes (text : List Char) :
    ((text.flatMap String.utf8EncodeChar).takeWhile isOperatorByte).length =
      (text.takeWhile isOperatorChar).length := by
  induction text with
  | nil => rfl
  | cons c text ih =>
      obtain ⟨byte, rest, form, same, alone⟩ := exists_firstByte c
      rw [List.flatMap_cons, form]
      cases operator : isOperatorChar c with
      | true => simp [alone operator, same, operator, ih]
      | false => simp [same, operator]

theorem length_le_bytes (text : List Char) :
    text.length ≤ (text.flatMap String.utf8EncodeChar).length := by
  induction text with
  | nil => simp
  | cons c text ih =>
      obtain ⟨byte, rest, form, -⟩ := exists_firstByte c
      rw [List.flatMap_cons, form]
      simp only [List.length_cons, List.length_append]
      omega

theorem length_bytes_of_operators {text : List Char}
    (operators : ∀ c ∈ text, isOperatorChar c = true) :
    (text.flatMap String.utf8EncodeChar).length = text.length := by
  induction text with
  | nil => rfl
  | cons c text ih =>
      rw [List.forall_mem_cons] at operators
      obtain ⟨byte, rest, form, -, alone⟩ := exists_firstByte c
      rw [List.flatMap_cons, form, alone operators.1]
      simp [ih operators.2]

theorem toUTF8_eq (text : String) :
    text.toUTF8.data.toList = text.toList.flatMap String.utf8EncodeChar := by
  obtain ⟨letters, rfl⟩ : ∃ letters, text = String.ofList letters :=
    ⟨text.toList, String.ofList_toList.symm⟩
  simp [List.utf8Encode]

theorem utf8ByteSize_eq (text : String) :
    text.utf8ByteSize = (text.toList.flatMap String.utf8EncodeChar).length := by
  rw [← toUTF8_eq, Array.length_toList]
  rfl

theorem Splits.operatorBytes_eq {key token field : String} (splits : Splits key token field) :
    operatorBytes key = token.utf8ByteSize := by
  have size : token.utf8ByteSize = token.length := by
    rw [utf8ByteSize_eq, length_bytes_of_operators splits.operators, String.length_toList]
  have run := List.takeWhile_prefix isOperatorChar (l := key.toList)
  have short := run.length_le
  have long := length_le_bytes key.toList
  rw [size, (splits_iff.mp splits).2, operatorBytes, operatorLength, toUTF8_eq,
    length_takeWhile_bytes, utf8ByteSize_eq]
  by_cases all : (key.toList.takeWhile isOperatorChar).length = key.toList.length
  · have operators := List.takeWhile_eq_self_iff.mp (run.eq_of_length all)
    rw [length_bytes_of_operators operators]
  · omega

theorem Splits.isValid {key token field : String} (splits : Splits key token field) :
    String.Pos.Raw.IsValid key ⟨operatorBytes key⟩ := by
  rw [String.Pos.Raw.isValid_iff_exists_append]
  exact ⟨token, field, splits.whole, by rw [splits.operatorBytes_eq]; rfl⟩

end QueryDoc.Key
