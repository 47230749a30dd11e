import QueryDoc.Json.Reading

/-!
# JSON strings

What stands between the quotes of a string.  A character outside the basic
plane is written raw or as two escapes, one for each half of its surrogate
pair; neither half may stand alone.
-/

namespace QueryDoc.Json.Quoted

/-! ## Escapes -/

def hexDigit? (c : Char) : Option Nat :=
  if '0' ≤ c ∧ c ≤ '9' then
    some (c.toNat - '0'.toNat)
  else if 'a' ≤ c ∧ c ≤ 'f' then
    some (c.toNat - 'a'.toNat + 10)
  else if 'A' ≤ c ∧ c ≤ 'F' then
    some (c.toNat - 'A'.toNat + 10)
  else
    none

def hexNumber? (digits : List Char) : Option Nat :=
  digits.foldl (fun sum c => return 16 * (← sum) + (← hexDigit? c)) (some 0)

def hexQuad (text : List Char) : Reading Cause Nat :=
  if (bytes (text.take 4)).length < 4 then
    .error (.here .unfinishedString [])
  else
    match hexNumber? (text.take 4) with
    | some unit => .ok (unit, text.drop 4)
    | none => .error ⟨.invalidEscape, text, 4⟩

def isHighSurrogate (unit : Nat) : Bool :=
  0xD800 ≤ unit && unit < 0xDC00

def isLowSurrogate (unit : Nat) : Bool :=
  0xDC00 ≤ unit && unit < 0xE000

def lowSurrogate (high : Nat) : List Char → Reading Cause Char
  | [] | ['\\'] => .error (.here .unfinishedString [])
  | '\\' :: 'u' :: text =>
      (hexQuad text).andThen fun low rest =>
        if isLowSurrogate low then
          .ok (Char.ofNat (0x10000 + 0x400 * (high - 0xD800) + (low - 0xDC00)), rest)
        else
          .error (.here .loneSurrogate rest)
  | '\\' :: text => .error (.next .unfinishedSurrogate text)
  | text => .error (.next .unfinishedSurrogate text)

def unicode (text : List Char) : Reading Cause Char :=
  (hexQuad text).andThen fun unit rest =>
    if isLowSurrogate unit then
      .error (.here .loneSurrogate rest)
    else if isHighSurrogate unit then
      lowSurrogate unit rest
    else
      .ok (Char.ofNat unit, rest)

def control? : Char → Option Char
  | '"' => some '"'
  | '\\' => some '\\'
  | '/' => some '/'
  | 'b' => some '\x08'
  | 'f' => some '\x0c'
  | 'n' => some '\n'
  | 'r' => some '\r'
  | 't' => some '\t'
  | _ => none

def escape : List Char → Reading Cause Char
  | [] => .error (.here .unfinishedString [])
  | 'u' :: text => unicode text
  | c :: text =>
      match control? c with
      | some plain => .ok (plain, text)
      | none => .error (.next .invalidEscape (c :: text))

theorem hexQuad_consumes (text : List Char) :
    (hexQuad text).LeavesLess (text.length + 1) := by
  unfold hexQuad
  split
  · exact Reading.leavesLess_error
  · split
    · exact Reading.leavesLess_ok (by rw [List.length_drop]; omega)
    · exact Reading.leavesLess_error

theorem lowSurrogate_consumes (high : Nat) (text : List Char) :
    (lowSurrogate high text).LeavesLess (text.length + 1) := by
  unfold lowSurrogate
  split
  · exact Reading.leavesLess_error
  · exact Reading.leavesLess_error
  · rename_i text
    refine Reading.LeavesLess.andThen fun low rest success => ?_
    have := hexQuad_consumes text low rest success
    split
    · exact Reading.leavesLess_ok (by simp; omega)
    · exact Reading.leavesLess_error
  · exact Reading.leavesLess_error
  · exact Reading.leavesLess_error

theorem unicode_consumes (text : List Char) :
    (unicode text).LeavesLess (text.length + 1) := by
  refine Reading.LeavesLess.andThen fun unit rest success => ?_
  have := hexQuad_consumes text unit rest success
  split
  · exact Reading.leavesLess_error
  · split
    · exact (lowSurrogate_consumes unit rest).mono (by omega)
    · exact Reading.leavesLess_ok this

theorem escape_consumes (text : List Char) :
    (escape text).LeavesLess text.length := by
  unfold escape
  split
  · exact Reading.leavesLess_error
  · exact unicode_consumes _
  · split
    · exact Reading.leavesLess_ok (by simp)
    · exact Reading.leavesLess_error

/-! ## Strings -/

def read (text : List Char) : Reading Cause (List Char) :=
  match text with
  | [] => .error (.here .unfinishedString [])
  | '"' :: rest => .ok ([], rest)
  | '\\' :: rest =>
      match _h : escape rest with
      | .error fault => .error fault
      | .ok (c, after) => (read after).mapValue (c :: ·)
  | c :: rest =>
      if c.toNat < 32 then
        .error (.next .controlCharacter (c :: rest))
      else
        (read rest).mapValue (c :: ·)
termination_by text.length
decreasing_by
  · have := escape_consumes rest c after (by assumption)
    simp only [List.length_cons]
    omega
  · simp

theorem read_escape (rest : List Char) :
    read ('\\' :: rest) = (escape rest).andThen fun c after =>
      (read after).mapValue (c :: ·) := by
  rw [read]
  cases escape rest <;> rfl

theorem read_consumes (text : List Char) : (read text).LeavesLess text.length := by
  fun_induction read text with
  | case1 => exact Reading.leavesLess_error
  | case2 rest => exact Reading.leavesLess_ok (by simp)
  | case3 => exact Reading.leavesLess_error
  | case4 rest c after success ih =>
    have := escape_consumes rest c after success
    exact (ih.mono (by simp only [List.length_cons]; omega)).mapValue _
  | case5 => exact Reading.leavesLess_error
  | case6 c rest _ _ _ ih => exact (ih.mono (by simp)).mapValue _

end QueryDoc.Json.Quoted
