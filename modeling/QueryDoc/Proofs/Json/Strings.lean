import QueryDoc.Json.Quoted

/-!
# What JSON strings spell

Between its quotes a string spells a character by the character itself, by an escape of one
letter, by the four digits of its unit, or by the units of both its halves.  However a text
is spelled, it is the text that is read.

Main statement: `Spells.read`.
-/

namespace QueryDoc.Json

/-! ## Units -/

def HexDigit (c : Char) (value : Nat) : Prop :=
  (c, value) ∈ "0123456789abcdef".toList.zipIdx ∨ (c, value) ∈ "0123456789ABCDEF".toList.zipIdx

inductive HexUnit : List Char → Nat → Prop where
  | digits {a b c d : Char} {p q r s : Nat} (first : HexDigit a p) (second : HexDigit b q)
      (third : HexDigit c r) (fourth : HexDigit d s) :
      HexUnit [a, b, c, d] (16 * (16 * (16 * p + q) + r) + s)

def escapes : List (Char × Char) :=
  [('"', '"'), ('\\', '\\'), ('/', '/'), ('b', '\x08'), ('f', '\x0c'), ('n', '\n'),
    ('r', '\r'), ('t', '\t')]

def Plain (c : Char) : Prop :=
  c ≠ '"' ∧ c ≠ '\\' ∧ 32 ≤ c.toNat

instance (c : Char) : Decidable (Plain c) :=
  inferInstanceAs (Decidable (_ ∧ _ ∧ _))

instance (text : List Char) : Decidable (∀ c ∈ text, Plain c) :=
  List.decidableBAll Plain text

/-- What a text may be spelled as between the quotes of a string. -/
inductive Spells : List Char → List Char → Prop where
  | nil : Spells [] []
  | plain {c : Char} {content text : List Char} (plain : Plain c) (rest : Spells content text) :
      Spells (c :: content) (c :: text)
  | escape {letter c : Char} {content text : List Char} (known : (letter, c) ∈ escapes)
      (rest : Spells content text) : Spells (c :: content) ('\\' :: letter :: text)
  | unit {c : Char} {digits content text : List Char} (unit : HexUnit digits c.toNat)
      (rest : Spells content text) :
      Spells (c :: content) ('\\' :: 'u' :: (digits ++ text))
  | pair {c : Char} {high low : Nat} {highDigits lowDigits content text : List Char}
      (first : HexUnit highDigits high) (second : HexUnit lowDigits low)
      (isHigh : 0xD800 ≤ high ∧ high < 0xDC00) (isLow : 0xDC00 ≤ low ∧ low < 0xE000)
      (character : c.toNat = 0x10000 + 0x400 * (high - 0xD800) + (low - 0xDC00))
      (rest : Spells content text) :
      Spells (c :: content)
        ('\\' :: 'u' :: (highDigits ++ '\\' :: 'u' :: (lowDigits ++ text)))

namespace Quoted

theorem plain_of_hexDigit? {c : Char} (digit : (hexDigit? c).isSome) :
    c.utf8Size = 1 ∧ c ≠ '\n' ∧ c ≠ '\r' := by
  have between : 48 ≤ c.val.toNat ∧ c.val.toNat ≤ 102 := by
    have ends : '0'.val.toNat = 48 ∧ '9'.val.toNat = 57 ∧ 'a'.val.toNat = 97 ∧
        'f'.val.toNat = 102 ∧ 'A'.val.toNat = 65 ∧ 'F'.val.toNat = 70 := by decide
    unfold hexDigit? at digit
    simp only [Char.le_def, UInt32.le_iff_toNat_le, ends] at digit
    grind
  refine ⟨?_, ?_, ?_⟩
  · have ascii : c.val ≤ 127 := by
      rw [UInt32.le_iff_toNat_le]
      exact Nat.le_trans between.2 (by decide)
    exact if_pos ascii
  · rintro rfl
    exact absurd between.1 (by decide)
  · rintro rfl
    exact absurd between.1 (by decide)

theorem hexDigit?_of_foldl {digits : List Char} {sum : Option Nat}
    (number : (digits.foldl (fun sum c => return 16 * (← sum) + (← hexDigit? c))
      sum).isSome) :
    sum.isSome ∧ ∀ c ∈ digits, (hexDigit? c).isSome := by
  induction digits generalizing sum with
  | nil => exact ⟨number, by simp⟩
  | cons c digits ih =>
      rw [List.foldl_cons] at number
      obtain ⟨both, rest⟩ := ih number
      cases sum <;> cases digit : hexDigit? c <;> simp_all

theorem plain_of_hexNumber? {digits : List Char} {unit : Nat}
    (number : hexNumber? digits = some unit) :
    ∀ c ∈ digits, c.utf8Size = 1 ∧ c ≠ '\n' ∧ c ≠ '\r' := by
  have found : (hexNumber? digits).isSome := by rw [number]; rfl
  exact fun c member => plain_of_hexDigit? ((hexDigit?_of_foldl found).2 c member)

theorem length_bytes {text : List Char} (ascii : ∀ c ∈ text, c.utf8Size = 1) :
    (bytes text).length = text.length := by
  induction text with
  | nil => rfl
  | cons c text ih =>
      rw [List.forall_mem_cons] at ascii
      simp only [bytes, List.flatMap_cons, List.length_append, List.length_replicate,
        List.length_cons, ascii.1] at ih ⊢
      rw [ih ascii.2, Nat.add_comm]

theorem hexQuad_eq_ok_iff {text rest : List Char} {unit : Nat} :
    hexQuad text = .ok (unit, rest) ↔
      ∃ digits, digits.length = 4 ∧ hexNumber? digits = some unit ∧
        text = digits ++ rest := by
  constructor
  · intro success
    unfold hexQuad at success
    split at success
    · cases success
    · rename_i enough
      split at success
      · rename_i number
        cases success
        have ascii := fun c member => (plain_of_hexNumber? number c member).1
        rw [length_bytes ascii, List.length_take] at enough
        exact ⟨text.take 4, by rw [List.length_take]; omega, number,
          (List.take_append_drop 4 text).symm⟩
      · cases success
  · rintro ⟨digits, four, number, rfl⟩
    have ascii := fun c member => (plain_of_hexNumber? number c member).1
    have taken : (digits ++ rest).take 4 = digits := List.take_left' four
    have dropped : (digits ++ rest).drop 4 = rest := List.drop_left' four
    rw [hexQuad, taken, dropped, length_bytes ascii, four, number]
    rfl

theorem hexDigit?_of_hexDigit {c : Char} {value : Nat} (digit : HexDigit c value) :
    hexDigit? c = some value := by
  have small : ∀ pair ∈ "0123456789abcdef".toList.zipIdx, hexDigit? pair.1 = some pair.2 := by
    decide
  have capital : ∀ pair ∈ "0123456789ABCDEF".toList.zipIdx, hexDigit? pair.1 = some pair.2 := by
    decide
  rcases digit with member | member
  · exact small _ member
  · exact capital _ member

theorem hexQuad_of_hexUnit {digits : List Char} {unit : Nat} (written : HexUnit digits unit)
    (rest : List Char) : hexQuad (digits ++ rest) = .ok (unit, rest) := by
  obtain ⟨first, second, third, fourth⟩ := written
  refine hexQuad_eq_ok_iff.mpr ⟨_, rfl, ?_, rfl⟩
  simp [hexNumber?, hexDigit?_of_hexDigit first, hexDigit?_of_hexDigit second,
    hexDigit?_of_hexDigit third, hexDigit?_of_hexDigit fourth]

theorem escape_of_known {letter c : Char} (known : (letter, c) ∈ escapes) (text : List Char) :
    escape (letter :: text) = .ok (c, text) := by
  simp only [escapes, List.mem_cons, Prod.mk.injEq, List.not_mem_nil, or_false] at known
  rcases known with ⟨rfl, rfl⟩ | ⟨rfl, rfl⟩ | ⟨rfl, rfl⟩ | ⟨rfl, rfl⟩ | ⟨rfl, rfl⟩ | ⟨rfl, rfl⟩ |
    ⟨rfl, rfl⟩ | ⟨rfl, rfl⟩ <;> rfl

theorem surrogate_toNat (c : Char) :
    isLowSurrogate c.toNat = false ∧ isHighSurrogate c.toNat = false := by
  have valid : c.toNat < 0xD800 ∨ 0xDFFF < c.toNat ∧ c.toNat < 0x110000 := c.valid
  simp only [isLowSurrogate, isHighSurrogate, Bool.and_eq_false_iff, decide_eq_false_iff_not]
  omega

theorem unicode_of_hexUnit {c : Char} {digits : List Char} (unit : HexUnit digits c.toNat)
    (text : List Char) : unicode (digits ++ text) = .ok (c, text) := by
  obtain ⟨notLow, notHigh⟩ := surrogate_toNat c
  rw [unicode, hexQuad_of_hexUnit unit]
  simp only [Reading.andThen, notLow, notHigh, Bool.false_eq_true, if_false, Char.ofNat_toNat]

theorem unicode_of_pair {c : Char} {high low : Nat} {highDigits lowDigits : List Char}
    (first : HexUnit highDigits high) (second : HexUnit lowDigits low)
    (isHigh : 0xD800 ≤ high ∧ high < 0xDC00) (isLow : 0xDC00 ≤ low ∧ low < 0xE000)
    (character : c.toNat = 0x10000 + 0x400 * (high - 0xD800) + (low - 0xDC00))
    (text : List Char) :
    unicode (highDigits ++ '\\' :: 'u' :: (lowDigits ++ text)) = .ok (c, text) := by
  have highLow : isLowSurrogate high = false := by
    simp only [isLowSurrogate, Bool.and_eq_false_iff, decide_eq_false_iff_not]
    omega
  have highHigh : isHighSurrogate high = true := by
    simp only [isHighSurrogate, Bool.and_eq_true, decide_eq_true_eq]
    exact isHigh
  have lowLow : isLowSurrogate low = true := by
    simp only [isLowSurrogate, Bool.and_eq_true, decide_eq_true_eq]
    exact isLow
  rw [unicode, hexQuad_of_hexUnit first]
  simp only [Reading.andThen, highLow, highHigh, Bool.false_eq_true, if_false, if_true]
  rw [lowSurrogate, hexQuad_of_hexUnit second]
  simp only [Reading.andThen, lowLow, if_true, ← character, Char.ofNat_toNat]

end Quoted

theorem Spells.read {content text : List Char} (spells : Spells content text)
    (rest : List Char) : Quoted.read (text ++ '"' :: rest) = .ok (content, rest) := by
  induction spells with
  | nil => rw [List.nil_append, Quoted.read]
  | plain plain _ ih =>
      obtain ⟨quote, backslash, printed⟩ := plain
      rw [List.cons_append, Quoted.read.eq_4 _ _ quote backslash, if_neg (by omega), ih]
      rfl
  | escape known _ ih =>
      rw [List.cons_append, List.cons_append, Quoted.read_escape, Quoted.escape_of_known known,
        Reading.andThen, ih]
      rfl
  | unit unit _ ih =>
      rw [List.cons_append, List.cons_append, List.append_assoc, Quoted.read_escape]
      change (Quoted.unicode _).andThen _ = _
      rw [Quoted.unicode_of_hexUnit unit, Reading.andThen, ih]
      rfl
  | pair first second isHigh isLow character _ ih =>
      rw [List.cons_append, List.cons_append, List.append_assoc, List.cons_append,
        List.cons_append, List.append_assoc, Quoted.read_escape]
      change (Quoted.unicode _).andThen _ = _
      rw [Quoted.unicode_of_pair first second isHigh isLow character, Reading.andThen, ih]
      rfl

theorem spells_plain {text : List Char} (plain : ∀ c ∈ text, Plain c) : Spells text text := by
  induction text with
  | nil => exact .nil
  | cons c text ih =>
      rw [List.forall_mem_cons] at plain
      exact .plain plain.1 (ih plain.2)

end QueryDoc.Json
