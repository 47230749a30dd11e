import QueryDoc.Json.Numeral
import QueryDoc.Json.Quoted
import QueryDoc.Json.Reader

/-!
# Passing over JSON values

A value that nobody asked for is only checked for its outline.  Arrays and
objects may be nested without limit, since the open ones are kept in a list;
numbers may be of any size, and surrogates need no partner.
-/

namespace QueryDoc.Json.Skip

/-! ## Strings -/

def escape : List Char → Reading Cause Unit
  | [] => .error (.here .unfinishedString [])
  | 'u' :: text => (Quoted.hexQuad text).mapValue fun _ => ()
  | c :: text =>
      if (Quoted.control? c).isSome then
        .ok ((), text)
      else
        .error (.next .invalidEscape (c :: text))

theorem escape_consumes (text : List Char) : (escape text).LeavesLess text.length := by
  unfold escape
  split
  · exact Reading.leavesLess_error
  · exact (Quoted.hexQuad_consumes _).mapValue _
  · split
    · exact Reading.leavesLess_ok (by simp)
    · exact Reading.leavesLess_error

def string (text : List Char) : Reading Cause Unit :=
  match text with
  | [] => .error (.here .unfinishedString [])
  | '"' :: rest => .ok ((), rest)
  | '\\' :: rest =>
      match _h : escape rest with
      | .error fault => .error fault
      | .ok (_, after) => string after
  | c :: rest =>
      if c.toNat < 32 then .error (.here .controlCharacter (c :: rest)) else string rest
termination_by text.length
decreasing_by
  · have := escape_consumes rest _ after (by assumption)
    simp only [List.length_cons]
    omega
  · simp

theorem string_consumes (text : List Char) : (string text).LeavesLess text.length := by
  fun_induction string text with
  | case1 => exact Reading.leavesLess_error
  | case2 => exact Reading.leavesLess_ok (by simp)
  | case3 => exact Reading.leavesLess_error
  | case4 rest _ after success ih =>
    have := escape_consumes rest _ after success
    exact ih.mono (by simp only [List.length_cons]; omega)
  | case5 => exact Reading.leavesLess_error
  | case6 _ _ _ _ _ ih => exact ih.mono (by simp)

/-! ## Numbers -/

def exponent (text : List Char) : Reading Cause Unit :=
  let digits := (Numeral.exponentSign text).2
  if Numeral.startsWithDigit digits then
    .ok ((), digits.dropWhile Char.isDigit)
  else
    .error (.next .invalidNumber digits)

def exponentTail : List Char → Reading Cause Unit
  | 'e' :: text | 'E' :: text => exponent text
  | text => .ok ((), text)

def numeralTail : List Char → Reading Cause Unit
  | '.' :: text =>
      if Numeral.startsWithDigit text then
        exponentTail (text.dropWhile Char.isDigit)
      else
        .error (.next .invalidNumber text)
  | text => exponentTail text

def unsigned : List Char → Reading Cause Unit
  | '0' :: text =>
      if Numeral.startsWithDigit text then
        .error (.next .invalidNumber text)
      else
        numeralTail text
  | text =>
      if Numeral.startsWithDigit text then
        numeralTail (text.dropWhile Char.isDigit)
      else
        .error (.next .invalidNumber text)

def numeral : List Char → Reading Cause Unit
  | '-' :: text => unsigned text
  | text => unsigned text

theorem exponent_consumes (text : List Char) :
    (exponent text).LeavesLess (text.length + 1) := by
  have := Numeral.length_exponentSign_le text
  have := Numeral.length_dropDigits_le (Numeral.exponentSign text).2
  unfold exponent
  dsimp only
  split
  · exact Reading.leavesLess_ok (by omega)
  · exact Reading.leavesLess_error

theorem exponentTail_consumes (text : List Char) :
    (exponentTail text).LeavesLess (text.length + 1) := by
  unfold exponentTail
  split
  · exact (exponent_consumes _).mono (by simp)
  · exact (exponent_consumes _).mono (by simp)
  · exact Reading.leavesLess_ok (by omega)

theorem numeralTail_consumes (text : List Char) :
    (numeralTail text).LeavesLess (text.length + 1) := by
  unfold numeralTail
  split
  · rename_i text
    have := Numeral.length_dropDigits_le text
    split
    · exact (exponentTail_consumes _).mono (by simp only [List.length_cons]; omega)
    · exact Reading.leavesLess_error
  · exact exponentTail_consumes _

theorem length_dropDigits_lt {text : List Char}
    (digit : Numeral.startsWithDigit text = true) :
    (text.dropWhile Char.isDigit).length < text.length := by
  cases text with
  | nil => simp [Numeral.startsWithDigit] at digit
  | cons c text =>
    have := Numeral.length_dropDigits_le text
    simp only [Numeral.startsWithDigit] at digit
    simp only [List.dropWhile_cons_of_pos digit, List.length_cons]
    omega

theorem unsigned_consumes (text : List Char) :
    (unsigned text).LeavesLess text.length := by
  unfold unsigned
  split
  · split
    · exact Reading.leavesLess_error
    · exact numeralTail_consumes _
  · split
    · rename_i digit
      have := length_dropDigits_lt digit
      exact (numeralTail_consumes _).mono (by omega)
    · exact Reading.leavesLess_error

theorem numeral_consumes (text : List Char) :
    (numeral text).LeavesLess text.length := by
  unfold numeral
  split
  · exact (unsigned_consumes _).mono (by simp)
  · exact unsigned_consumes _

/-! ## Values -/

def key (text : List Char) : Reading Cause Unit :=
  match skipBlanks text with
  | [] => .error (.next .unfinishedObject [])
  | '"' :: rest =>
      (string rest).andThen fun _ rest =>
        match skipBlanks rest with
        | [] => .error (.next .unfinishedObject [])
        | ':' :: rest => .ok ((), rest)
        | rest => .error (.next .noColon rest)
  | rest => .error (.next .keyNotString rest)

theorem key_consumes (text : List Char) : (key text).LeavesLess text.length := by
  have blanks := length_skipBlanks_le text
  unfold key
  split
  · exact Reading.leavesLess_error
  · rename_i found
    rw [found] at blanks
    refine Reading.LeavesLess.andThen fun _ rest success => ?_
    have := string_consumes _ _ rest success
    have inner := length_skipBlanks_le rest
    split
    · exact Reading.leavesLess_error
    · rename_i found
      rw [found] at inner
      simp only [List.length_cons] at blanks inner
      exact Reading.leavesLess_ok (by omega)
    · exact Reading.leavesLess_error
  · exact Reading.leavesLess_error

def scalar (c : Char) (text : List Char) : Reading Cause Unit :=
  match c with
  | 'n' => word () ['u', 'l', 'l'] text
  | 't' => word () ['r', 'u', 'e'] text
  | 'f' => word () ['a', 'l', 's', 'e'] text
  | '"' => string text
  | c =>
      if c = '-' || c.isDigit then
        numeral (c :: text)
      else
        .error (.next .noValue (c :: text))

theorem scalar_consumes (c : Char) (text : List Char) :
    (scalar c text).LeavesLess (text.length + 1) := by
  unfold scalar
  split
  · exact word_consumes _ _ _
  · exact word_consumes _ _ _
  · exact word_consumes _ _ _
  · exact (string_consumes _).mono (by omega)
  · split
    · exact numeral_consumes _
    · exact Reading.leavesLess_error

inductive Enclosure where
  | list
  | object
  deriving DecidableEq, Repr

mutual

/-- A value inside these arrays and objects, innermost first, and their ends. -/
def value (enclosures : List Enclosure) (text : List Char) : Reading Cause Unit :=
  match _h : skipBlanks text with
  | [] => .error (.next .unfinishedValue [])
  | '[' :: rest =>
      match _h' : skipBlanks rest with
      | [] => .error (.next .unfinishedList [])
      | ']' :: after => afterValue enclosures after
      | _ => value (.list :: enclosures) rest
  | '\x7b' :: rest =>
      match _h' : skipBlanks rest with
      | [] => .error (.next .unfinishedObject [])
      | '\x7d' :: after => afterValue enclosures after
      | _ =>
          match _success : key rest with
          | .error fault => .error fault
          | .ok (_, after) => value (.object :: enclosures) after
  | c :: rest =>
      match _success : scalar c rest with
      | .error fault => .error fault
      | .ok (_, after) => afterValue enclosures after
termination_by text.length
decreasing_by
  all_goals
    have blanks := length_skipBlanks_le text
    simp only [_h, List.length_cons] at blanks
  · have inner := length_skipBlanks_le rest
    simp only [_h', List.length_cons] at inner
    omega
  · omega
  · have inner := length_skipBlanks_le rest
    simp only [_h', List.length_cons] at inner
    omega
  · have := key_consumes rest _ after _success
    omega
  · have := scalar_consumes c rest _ after _success
    omega

def afterValue (enclosures : List Enclosure) (text : List Char) : Reading Cause Unit :=
  match enclosures with
  | [] => .ok ((), text)
  | .list :: outer =>
      match _h : skipBlanks text with
      | [] => .error (.next .unfinishedList [])
      | ']' :: rest => afterValue outer rest
      | ',' :: rest => value (.list :: outer) rest
      | rest => .error (.next .noListSeparator rest)
  | .object :: outer =>
      match _h : skipBlanks text with
      | [] => .error (.next .unfinishedObject [])
      | '\x7d' :: rest => afterValue outer rest
      | ',' :: rest =>
          match _success : key rest with
          | .error fault => .error fault
          | .ok (_, after) => value (.object :: outer) after
      | rest => .error (.next .noObjectSeparator rest)
termination_by text.length
decreasing_by
  all_goals
    have blanks := length_skipBlanks_le text
    simp only [_h, List.length_cons] at blanks
  · omega
  · omega
  · omega
  · have := key_consumes rest _ after _success
    omega

end

theorem consumes_of_length (length : Nat) :
    ∀ text : List Char, text.length = length → ∀ enclosures,
      (value enclosures text).LeavesLess text.length ∧
        (afterValue enclosures text).LeavesLess (text.length + 1) := by
  induction length using Nat.strongRecOn with
  | _ length shorter =>
    rintro text rfl enclosures
    have blanks := length_skipBlanks_le text
    have recur (rest : List Char) (less : rest.length < text.length) (enclosures) :=
      shorter rest.length less rest rfl enclosures
    constructor
    · rw [value]
      split
      · exact Reading.leavesLess_error
      · rename_i rest found
        rw [found, List.length_cons] at blanks
        have inner := length_skipBlanks_le rest
        split
        · exact Reading.leavesLess_error
        · rename_i after found
          rw [found, List.length_cons] at inner
          exact ((recur after (by omega) _).2).mono (by omega)
        · exact ((recur rest (by omega) _).1).mono (by omega)
      · rename_i rest found
        rw [found, List.length_cons] at blanks
        have inner := length_skipBlanks_le rest
        split
        · exact Reading.leavesLess_error
        · rename_i after found
          rw [found, List.length_cons] at inner
          exact ((recur after (by omega) _).2).mono (by omega)
        · split
          · exact Reading.leavesLess_error
          · rename_i after success
            have := key_consumes rest _ after success
            exact ((recur after (by omega) _).1).mono (by omega)
      · rename_i c rest _ _ found
        rw [found, List.length_cons] at blanks
        split
        · exact Reading.leavesLess_error
        · rename_i after success
          have := scalar_consumes c rest _ after success
          exact ((recur after (by omega) _).2).mono (by omega)
    · rw [afterValue.eq_def]
      split
      · exact Reading.leavesLess_ok (by omega)
      · split
        · exact Reading.leavesLess_error
        · rename_i rest found
          rw [found, List.length_cons] at blanks
          exact ((recur rest (by omega) _).2).mono (by omega)
        · rename_i rest found
          rw [found, List.length_cons] at blanks
          exact ((recur rest (by omega) _).1).mono (by omega)
        · exact Reading.leavesLess_error
      · split
        · exact Reading.leavesLess_error
        · rename_i rest found
          rw [found, List.length_cons] at blanks
          exact ((recur rest (by omega) _).2).mono (by omega)
        · rename_i rest found
          rw [found, List.length_cons] at blanks
          split
          · exact Reading.leavesLess_error
          · rename_i after success
            have := key_consumes rest _ after success
            exact ((recur after (by omega) _).1).mono (by omega)
        · exact Reading.leavesLess_error

theorem value_consumes (enclosures : List Enclosure) (text : List Char) :
    (value enclosures text).LeavesLess text.length :=
  (consumes_of_length text.length text rfl enclosures).1

def reader : Reader Cause Unit := ⟨value [], value_consumes []⟩

end QueryDoc.Json.Skip
