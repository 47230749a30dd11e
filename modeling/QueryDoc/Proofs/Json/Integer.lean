import QueryDoc.Json.Numeral
import QueryDoc.Proofs.Json.Skipped

/-!
# Integers in JSON text

A numeral of digits alone stands for an integer.  An integer that a word of 64 bits
can hold, with a sign or without, is written in query text with the numeral it was
read from.

Main statement: `Occurrence.queryText_of_integer`.
-/

namespace QueryDoc.Json.Numeral

/-! ## What digits stand for -/

def natural? (digits : List Char) : Option Nat :=
  if digits = ['0'] ∨ Decimal.IsDigits digits ∧ digits.head? ≠ some '0' then
    some (Nat.ofDigitChars 10 digits 0)
  else
    none

def integer? : List Char → Option Int
  | '-' :: digits => (natural? digits).map fun number : Nat => -(number : Int)
  | digits => (natural? digits).map fun number : Nat => (number : Int)

theorem natural?_eq_some_iff {digits : List Char} {number : Nat} :
    natural? digits = some number ↔
      (digits = ['0'] ∨ Decimal.IsDigits digits ∧ digits.head? ≠ some '0') ∧
        Nat.ofDigitChars 10 digits 0 = number := by
  unfold natural?
  split <;> simp_all

theorem exists_of_integer? {literal : List Char} {integer : Int}
    (denotes : integer? literal = some integer) :
    ∃ negative digits, ∃ number : Nat,
      literal = Decimal.Layout.signed negative digits ∧ natural? digits = some number ∧
        integer = if negative then -(number : Int) else number := by
  unfold integer? at denotes
  split at denotes
  · obtain ⟨number, found, rfl⟩ := Option.map_eq_some_iff.mp denotes
    exact ⟨true, _, number, rfl, found, rfl⟩
  · obtain ⟨number, found, rfl⟩ := Option.map_eq_some_iff.mp denotes
    exact ⟨false, _, number, rfl, found, rfl⟩

theorem unsigned_of_natural? {digits : List Char} {number : Nat}
    (found : natural? digits = some number) (after text : List Char) :
    digits ++ after ≠ '-' :: text := by
  obtain ⟨rfl | ⟨isDigits, -⟩, -⟩ := natural?_eq_some_iff.mp found
  · simp
  · cases digits with
    | nil => exact (isDigits.1 rfl).elim
    | cons c digits =>
        rintro ⟨⟩
        exact absurd (isDigits.2 '-' List.mem_cons_self) (by decide)

theorem digitValue_of_isDigit {c : Char} (digit : c.isDigit = true) :
    digitValue c < 10 ∧ Nat.digitChar (digitValue c) = c := by
  have between : 48 ≤ c.toNat ∧ c.toNat ≤ 57 := Char.isDigit_iff_toNat.mp digit
  have value : digitValue c = c.toNat - 48 := rfl
  have small : digitValue c < 10 := by omega
  refine ⟨small, Char.toNat_inj.mp ?_⟩
  rw [Nat.toNat_digitChar_of_lt_ten small]
  omega

theorem ofDigitChars_cons (c : Char) (digits : List Char) (number : Nat) :
    Nat.ofDigitChars 10 (c :: digits) number =
      Nat.ofDigitChars 10 digits (10 * number + digitValue c) :=
  Nat.ofDigitChars_cons

theorem toDigits_ofDigitChars {digits : List Char} (all : ∀ c ∈ digits, c.isDigit = true)
    {number : Nat} (positive : 0 < number) :
    Nat.toDigits 10 (Nat.ofDigitChars 10 digits number) =
      Nat.toDigits 10 number ++ digits := by
  induction digits generalizing number with
  | nil => simp
  | cons c digits ih =>
      rw [List.forall_mem_cons] at all
      obtain ⟨small, char⟩ := digitValue_of_isDigit all.1
      rw [ofDigitChars_cons, ih all.2 (by omega),
        ← Nat.toDigits_append_toDigits (by decide) positive small,
        Nat.toDigits_of_lt_base small, char, List.append_assoc, List.singleton_append]

theorem toDigits_of_natural? {digits : List Char} {number : Nat}
    (found : natural? digits = some number) : Nat.toDigits 10 number = digits := by
  obtain ⟨rfl | ⟨isDigits, noZero⟩, rfl⟩ := natural?_eq_some_iff.mp found
  · decide
  · cases digits with
    | nil => exact (isDigits.1 rfl).elim
    | cons c digits =>
        have all := isDigits.2
        rw [List.forall_mem_cons] at all
        obtain ⟨small, char⟩ := digitValue_of_isDigit all.1
        have positive : 0 < digitValue c := by
          refine Nat.pos_of_ne_zero fun zero => noZero ?_
          rw [← char, zero]
          rfl
        rw [ofDigitChars_cons, Nat.mul_zero, Nat.zero_add,
          toDigits_ofDigitChars all.2 positive, Nat.toDigits_of_lt_base small, char,
          List.singleton_append]

theorem head?_toDigits {number : Nat} (positive : 0 < number) :
    (Nat.toDigits 10 number).head? ≠ some '0' := by
  induction number using Nat.strongRecOn with
  | _ number ih =>
      rcases Nat.lt_or_ge number 10 with small | large
      · rw [Nat.toDigits_of_lt_base small]
        intro zero
        have char := congrArg Char.toNat (Option.some.inj zero)
        rw [Nat.toNat_digitChar_of_lt_ten small] at char
        exact Nat.ne_of_gt positive (Nat.add_left_cancel char)
      · have first := ih (number / 10) (by omega) (by omega)
        rw [Nat.toDigits_of_base_le (by decide) large]
        cases digits : Nat.toDigits 10 (number / 10) with
        | nil => exact (Nat.toDigits_ne_nil digits).elim
        | cons c more =>
            rw [digits] at first
            exact first

theorem natural?_toDigits (number : Nat) : natural? (Nat.toDigits 10 number) = some number := by
  refine natural?_eq_some_iff.mpr ⟨?_, Nat.ofDigitChars_ten_toDigits⟩
  rcases Nat.eq_zero_or_pos number with rfl | positive
  · exact .inl rfl
  · exact .inr ⟨Decimal.isDigits_toDigits number, head?_toDigits positive⟩

/-! ## Reading digits -/

theorem le_ofDigitChars (digits : List Char) (number : Nat) :
    number ≤ Nat.ofDigitChars 10 digits number := by
  induction digits generalizing number with
  | nil => exact Nat.le_refl number
  | cons c digits ih =>
      rw [ofDigitChars_cons]
      have := ih (10 * number + digitValue c)
      omega

theorem foldl_gatherWhole {digits : List Char} {number : Nat}
    (within : Nat.ofDigitChars 10 digits number < Word.bound) :
    digits.foldl gatherWhole ⟨number, 0⟩ = ⟨Nat.ofDigitChars 10 digits number, 0⟩ := by
  induction digits generalizing number with
  | nil => rfl
  | cons c digits ih =>
      rw [ofDigitChars_cons] at within ⊢
      have first := Nat.lt_of_le_of_lt (le_ofDigitChars digits _) within
      rw [List.foldl_cons, gatherWhole]
      simp only [fits, first, decide_true, and_self, if_true]
      exact ih within

theorem readTail_of_length_le {negative : Bool} {significand : Nat} {text rest : List Char}
    {number : Number} (success : readTail negative ⟨significand, 0⟩ text = .ok (number, rest))
    (kept : text.length ≤ rest.length) : number = whole negative significand := by
  unfold readTail at success
  split at success
  · have := readFraction_consumes _ _ _ _ _ success
    simp only [List.length_cons] at kept
    omega
  · have := readExponent_consumes _ _ _ _ _ success
    simp only [List.length_cons] at kept
    omega
  · have := readExponent_consumes _ _ _ _ _ success
    simp only [List.length_cons] at kept
    omega
  · rw [if_pos rfl] at success
    cases success
    rfl

theorem readUnsigned_of_natural? {negative : Bool} {digits after rest : List Char}
    {significand : Nat} {number : Number} (found : natural? digits = some significand)
    (within : significand < Word.bound)
    (success : readUnsigned negative (digits ++ after) = .ok (number, rest))
    (kept : after.length ≤ rest.length) : number = whole negative significand := by
  obtain ⟨rfl | ⟨isDigits, noZero⟩, rfl⟩ := natural?_eq_some_iff.mp found
  · rw [List.singleton_append, readUnsigned] at success
    split at success
    · cases success
    · exact readTail_of_length_le success kept
  · cases digits with
    | nil => exact (isDigits.1 rfl).elim
    | cons c digits =>
        have all := isDigits.2
        rw [List.forall_mem_cons] at all
        have notZero : c ≠ '0' := by simpa using noZero
        rw [List.cons_append, readUnsigned.eq_3 _ _ _ notZero, if_pos all.1,
          List.takeWhile_append_of_pos all.2, List.dropWhile_append_of_pos all.2] at success
        have shorter := readTail_consumes _ _ _ _ _ success
        have split := congrArg List.length
          (List.takeWhile_append_dropWhile (p := Char.isDigit) (l := after))
        rw [List.length_append] at split
        have last : after.takeWhile Char.isDigit = [] := List.length_eq_zero_iff.mp (by omega)
        rw [last, List.append_nil, foldl_gatherWhole within] at success
        exact readTail_of_length_le success (by omega)

/-! ## Numerals that end -/

theorem readTail_of_ends {rest : List Char} (ends : Ends rest) (number : Nat) :
    readTail false ⟨number, 0⟩ rest = .ok (.integer number, rest) := by
  rw [readTail.eq_def]
  split
  · exact (ends.ne (.inr (by decide)) rfl).elim
  · exact (ends.ne (.inr (by decide)) rfl).elim
  · exact (ends.ne (.inr (by decide)) rfl).elim
  · rfl

theorem read_of_natural? {digits rest : List Char} {number : Nat}
    (found : natural? digits = some number) (within : number < Word.bound) (ends : Ends rest) :
    read (digits ++ rest) = .ok (.integer number, rest) := by
  have stop := Skip.startsWithDigit_of_ends ends
  rw [read.eq_2 _ (unsigned_of_natural? found rest)]
  obtain ⟨rfl | ⟨isDigits, noZero⟩, rfl⟩ := natural?_eq_some_iff.mp found
  · rw [List.singleton_append, readUnsigned, if_neg (by simp [stop])]
    exact readTail_of_ends ends 0
  · cases digits with
    | nil => exact (isDigits.1 rfl).elim
    | cons c digits =>
        have all := isDigits.2
        rw [List.forall_mem_cons] at all
        have notZero : c ≠ '0' := by simpa using noZero
        have taken : (digits ++ rest).takeWhile Char.isDigit = digits := by
          have whole := List.takeWhile_append_dropWhile (p := Char.isDigit) (l := digits ++ rest)
          rw [Skip.dropWhile_digits all.2 stop] at whole
          exact List.append_cancel_right whole
        rw [List.cons_append, readUnsigned.eq_3 _ _ _ notZero, if_pos all.1, taken,
          Skip.dropWhile_digits all.2 stop, foldl_gatherWhole within]
        exact readTail_of_ends ends _

/-! ## Numerals in a text -/

/-- A numeral, as part of a text from which it is read. -/
structure Occurrence where
  text : List Char
  number : Number
  rest : List Char
  success : read text = .ok (number, rest)

namespace Occurrence

def literal (occurrence : Occurrence) : List Char :=
  occurrence.text.take (occurrence.text.length - occurrence.rest.length)

theorem text_eq (occurrence : Occurrence) :
    ∃ after, occurrence.text = occurrence.literal ++ after ∧
      after.length ≤ occurrence.rest.length := by
  refine ⟨_, (List.take_append_drop _ _).symm, ?_⟩
  rw [List.length_drop]
  omega

theorem number_of_natural? (occurrence : Occurrence) {negative : Bool} {digits : List Char}
    {significand : Nat}
    (written : occurrence.literal = Decimal.Layout.signed negative digits)
    (found : natural? digits = some significand) (within : significand < Word.bound) :
    occurrence.number = whole negative significand := by
  obtain ⟨after, text, kept⟩ := occurrence.text_eq
  have success := occurrence.success
  rw [text, written] at success
  cases negative with
  | true => exact readUnsigned_of_natural? found within success kept
  | false =>
      change read (digits ++ after) = _ at success
      rw [read.eq_2 _ (unsigned_of_natural? found after)] at success
      exact readUnsigned_of_natural? found within success kept

theorem exists_whole_of_integer (occurrence : Occurrence) {integer : Int}
    (denotes : integer? occurrence.literal = some integer)
    (least : -(Word.negativeBound : Int) ≤ integer) (greatest : integer < Word.bound) :
    ∃ negative significand,
      occurrence.literal = Decimal.Layout.signed negative (Nat.toDigits 10 significand) ∧
        occurrence.number = whole negative significand ∧ significand < Word.bound ∧
        (negative = true → significand ≤ Word.negativeBound) := by
  obtain ⟨negative, digits, significand, written, found, rfl⟩ := exists_of_integer? denotes
  have bounds : significand < Word.bound ∧
      (negative = true → significand ≤ Word.negativeBound) := by
    have below : Word.negativeBound < Word.bound := by decide
    cases negative with
    | false => exact ⟨by simpa using greatest, by simp⟩
    | true =>
        simp only [if_true] at least
        exact ⟨by omega, fun _ => by omega⟩
  refine ⟨negative, significand, ?_, ?_, bounds⟩
  · rw [written, toDigits_of_natural? found]
  · exact occurrence.number_of_natural? written found bounds.1

theorem queryText_whole {negative : Bool} {significand : Nat}
    (least : negative = true → significand ≤ Word.negativeBound) :
    (whole negative significand).queryText.toList =
      Decimal.Layout.signed negative (Nat.toDigits 10 significand) := by
  cases negative with
  | false => simp [whole, Number.queryText, Number.text, Decimal.Layout.signed, Int.repr]
  | true =>
      cases significand with
      | zero => decide +kernel
      | succ number =>
          rw [whole, if_neg (by decide), if_pos ⟨by omega, least rfl⟩]
          change (toString (Int.negSucc number)).toList = _
          simp [Decimal.Layout.signed, Int.repr]

theorem stored_whole {negative : Bool} {significand : Nat} (within : significand < Word.bound)
    (least : negative = true → significand ≤ Word.negativeBound) :
    (whole negative significand).Stored := by
  cases negative with
  | false =>
      simp only [whole, if_true, Number.Stored]
      omega
  | true =>
      cases significand with
      | zero => decide +kernel
      | succ number =>
          rw [whole, if_neg (by decide), if_pos ⟨by omega, least rfl⟩, Number.Stored]
          have := least rfl
          omega

/-- The numeral of an integer of 64 bits is also its numeral in query text. -/
theorem queryText_of_integer (occurrence : Occurrence) {integer : Int}
    (denotes : integer? occurrence.literal = some integer)
    (least : -(Word.negativeBound : Int) ≤ integer) (greatest : integer < Word.bound) :
    occurrence.number.queryText.toList = occurrence.literal := by
  obtain ⟨negative, significand, written, number, -, bound⟩ :=
    occurrence.exists_whole_of_integer denotes least greatest
  rw [number, written, queryText_whole bound]

theorem stored_of_integer (occurrence : Occurrence) {integer : Int}
    (denotes : integer? occurrence.literal = some integer)
    (least : -(Word.negativeBound : Int) ≤ integer) (greatest : integer < Word.bound) :
    occurrence.number.Stored := by
  obtain ⟨negative, significand, -, number, within, bound⟩ :=
    occurrence.exists_whole_of_integer denotes least greatest
  rw [number]
  exact stored_whole within bound

end Occurrence

end QueryDoc.Json.Numeral
