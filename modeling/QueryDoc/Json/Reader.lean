import QueryDoc.Json
import QueryDoc.Json.Numeral
import QueryDoc.Json.Quoted

/-!
# Reading JSON text

A value is read together with the blanks before it.  Arrays and objects may be
nested in each other down to a fixed number of levels.
-/

namespace QueryDoc.Json

def word {α : Type} (value : α) : List Char → List Char → Reading Cause α
  | [], text => .ok (value, text)
  | _ :: _, [] => .error (.here .unfinishedValue [])
  | letter :: letters, c :: text =>
      if c = letter then
        word value letters text
      else
        .error (.next .unknownWord (c :: text))

theorem word_consumes {α : Type} (value : α) (letters text : List Char) :
    (word value letters text).LeavesLess (text.length + 1) := by
  fun_induction word value letters text with
  | case1 => exact Reading.leavesLess_ok (by omega)
  | case2 => exact Reading.leavesLess_error
  | case3 _ _ _ ih => exact ih.mono (by simp)
  | case4 => exact Reading.leavesLess_error

/-! ## Arrays -/

section

variable {α : Type}

def moreItems (item : Reader Cause α) (text : List Char) : Reading Cause (List α) :=
  match _h : skipBlanks text with
  | [] => .error (.next .unfinishedList [])
  | ']' :: rest => .ok ([], rest)
  | ',' :: rest =>
      match skipBlanks rest with
      | ']' :: rest => .error (.next .trailingComma (']' :: rest))
      | _ =>
          match _success : item.run rest with
          | .error fault => .error fault
          | .ok (first, rest) => (moreItems item rest).mapValue (first :: ·)
  | rest => .error (.next .noListSeparator rest)
termination_by text.length
decreasing_by
  have blanks := length_skipBlanks_le text
  have item := item.shorter (by assumption)
  simp_all only [List.length_cons]
  omega

def items (item : Reader Cause α) (text : List Char) : Reading Cause (List α) :=
  match skipBlanks text with
  | [] => .error (.next .unfinishedList [])
  | ']' :: rest => .ok ([], rest)
  | rest =>
      (item.run rest).andThen fun first rest =>
        (moreItems item rest).mapValue (first :: ·)

theorem moreItems_eq (item : Reader Cause α) (text : List Char) :
    moreItems item text =
      match skipBlanks text with
      | [] => .error (.next .unfinishedList [])
      | ']' :: rest => .ok ([], rest)
      | ',' :: rest =>
          match skipBlanks rest with
          | ']' :: rest => .error (.next .trailingComma (']' :: rest))
          | _ => (item.run rest).andThen fun first rest =>
              (moreItems item rest).mapValue (first :: ·)
      | rest => .error (.next .noListSeparator rest) := by
  rw [moreItems]
  split
  case h_3 rest found =>
    simp only [found]
    cases item.run rest <;> rfl
  case h_4 none bracket comma =>
    split
    · contradiction
    · exact (bracket _ ‹_›).elim
    · exact (comma _ ‹_›).elim
    · rfl
  all_goals simp only [*]

theorem moreItems_consumes (item : Reader Cause α) (text : List Char) :
    (moreItems item text).LeavesLess text.length := by
  fun_induction moreItems item text with
  | case1 => exact Reading.leavesLess_error
  | case2 text rest blanks =>
    have := length_skipBlanks_le text
    rw [blanks] at this
    exact Reading.leavesLess_ok (by simpa [Nat.succ_le_iff] using this)
  | case3 => exact Reading.leavesLess_error
  | case4 => exact Reading.leavesLess_error
  | case5 text rest blanks first after success _ ih =>
    have := length_skipBlanks_le text
    rw [blanks] at this
    have := item.shorter success
    exact (ih.mono (by simp only [List.length_cons] at *; omega)).mapValue _
  | case6 => exact Reading.leavesLess_error

theorem items_eq_andThen {item : Reader Cause α} {text rest : List Char} {c : Char}
    (found : skipBlanks text = c :: rest) (other : c ≠ ']') :
    items item text = (item.run (c :: rest)).andThen fun first rest =>
      (moreItems item rest).mapValue (first :: ·) := by
  rw [items, found]
  split <;> simp_all

theorem items_consumes (item : Reader Cause α) (text : List Char) :
    (items item text).LeavesLess text.length := by
  have blanks := length_skipBlanks_le text
  unfold items
  split
  · exact Reading.leavesLess_error
  · rename_i found
    rw [found] at blanks
    exact Reading.leavesLess_ok (by simpa [Nat.succ_le_iff] using blanks)
  · refine Reading.LeavesLess.andThen fun first rest success => ?_
    have := item.shorter success
    exact ((moreItems_consumes item rest).mono (by omega)).mapValue _

/-! ## Objects -/

def member (item : Reader Cause α) (text : List Char) : Reading Cause (String × α) :=
  match text with
  | '"' :: text =>
      (Quoted.read text).andThen fun key rest =>
        match skipBlanks rest with
        | [] => .error (.next .unfinishedObject [])
        | ':' :: rest => (item.run rest).mapValue fun value => (String.ofList key, value)
        | rest => .error (.next .noColon rest)
  | text => .error (.next .keyNotString text)

theorem member_consumes (item : Reader Cause α) (text : List Char) :
    (member item text).LeavesLess text.length := by
  unfold member
  split
  · refine Reading.LeavesLess.andThen fun key rest success => ?_
    have := Quoted.read_consumes _ key rest success
    have := length_skipBlanks_le rest
    split
    · exact Reading.leavesLess_error
    · simp_all only [List.length_cons]
      exact ((item.consumes _).mono (by omega)).mapValue _
    · exact Reading.leavesLess_error
  · exact Reading.leavesLess_error

def moreMembers (item : Reader Cause α) (text : List Char) :
    Reading Cause (List (String × α)) :=
  match _h : skipBlanks text with
  | [] => .error (.next .unfinishedObject [])
  | '\x7d' :: rest => .ok ([], rest)
  | ',' :: rest =>
      match skipBlanks rest with
      | [] => .error (.next .unfinishedValue [])
      | '\x7d' :: rest => .error (.next .trailingComma ('\x7d' :: rest))
      | _ =>
          match _success : member item (skipBlanks rest) with
          | .error fault => .error fault
          | .ok (first, after) => (moreMembers item after).mapValue (first :: ·)
  | rest => .error (.next .noObjectSeparator rest)
termination_by text.length
decreasing_by
  have outer := length_skipBlanks_le text
  have inner := length_skipBlanks_le rest
  have member := member_consumes item _ _ _ (by assumption)
  simp_all only [List.length_cons]
  omega

def members (item : Reader Cause α) (text : List Char) :
    Reading Cause (List (String × α)) :=
  match skipBlanks text with
  | [] => .error (.next .unfinishedObject [])
  | '\x7d' :: rest => .ok ([], rest)
  | rest =>
      (member item rest).andThen fun first rest =>
        (moreMembers item rest).mapValue (first :: ·)

theorem moreMembers_eq (item : Reader Cause α) (text : List Char) :
    moreMembers item text =
      match skipBlanks text with
      | [] => .error (.next .unfinishedObject [])
      | '\x7d' :: rest => .ok ([], rest)
      | ',' :: rest =>
          match skipBlanks rest with
          | [] => .error (.next .unfinishedValue [])
          | '\x7d' :: rest => .error (.next .trailingComma ('\x7d' :: rest))
          | _ => (member item (skipBlanks rest)).andThen fun first rest =>
              (moreMembers item rest).mapValue (first :: ·)
      | rest => .error (.next .noObjectSeparator rest) := by
  rw [moreMembers]
  split
  case h_3 rest found =>
    simp only [found]
    cases member item (skipBlanks rest) <;> rfl
  case h_4 none brace comma =>
    split
    · contradiction
    · exact (brace _ ‹_›).elim
    · exact (comma _ ‹_›).elim
    · rfl
  all_goals simp only [*]

theorem moreMembers_consumes (item : Reader Cause α) (text : List Char) :
    (moreMembers item text).LeavesLess text.length := by
  fun_induction moreMembers item text with
  | case1 => exact Reading.leavesLess_error
  | case2 text rest blanks =>
    have := length_skipBlanks_le text
    rw [blanks] at this
    exact Reading.leavesLess_ok (by simpa [Nat.succ_le_iff] using this)
  | case3 => exact Reading.leavesLess_error
  | case4 => exact Reading.leavesLess_error
  | case5 => exact Reading.leavesLess_error
  | case6 text rest blanks first after success _ _ ih =>
    have outer := length_skipBlanks_le text
    have inner := length_skipBlanks_le rest
    rw [blanks] at outer
    have := member_consumes item _ _ _ success
    exact (ih.mono (by simp only [List.length_cons] at *; omega)).mapValue _
  | case7 => exact Reading.leavesLess_error

theorem members_eq_andThen {item : Reader Cause α} {text rest : List Char} {c : Char}
    (found : skipBlanks text = c :: rest) (other : c ≠ '\x7d') :
    members item text = (member item (c :: rest)).andThen fun first rest =>
      (moreMembers item rest).mapValue (first :: ·) := by
  rw [members, found]
  split <;> simp_all

theorem members_consumes (item : Reader Cause α) (text : List Char) :
    (members item text).LeavesLess text.length := by
  have blanks := length_skipBlanks_le text
  unfold members
  split
  · exact Reading.leavesLess_error
  · rename_i found
    rw [found] at blanks
    exact Reading.leavesLess_ok (by simpa [Nat.succ_le_iff] using blanks)
  · refine Reading.LeavesLess.andThen fun first rest success => ?_
    have := member_consumes item _ _ _ success
    exact ((moreMembers_consumes item rest).mono (by omega)).mapValue _

end

/-! ## Values -/

/-- A value whose elements and members, if it may have any, are read by `item`. -/
def valueOver (item : Option (Reader Cause Json)) (text : List Char) :
    Reading Cause Json :=
  match skipBlanks text with
  | [] => .error (.next .unfinishedValue [])
  | 'n' :: rest => word .null ['u', 'l', 'l'] rest
  | 't' :: rest => word (.bool true) ['r', 'u', 'e'] rest
  | 'f' :: rest => word (.bool false) ['a', 'l', 's', 'e'] rest
  | '"' :: rest => (Quoted.read rest).mapValue (.string <| String.ofList ·)
  | '[' :: rest =>
      match item with
      | none => .error (.next .tooManyLevels ('[' :: rest))
      | some item => (items item rest).mapValue .array
  | '\x7b' :: rest =>
      match item with
      | none => .error (.next .tooManyLevels ('\x7b' :: rest))
      | some item => (members item rest).mapValue ofEntries
  | c :: rest =>
      if c = '-' || c.isDigit then
        (Numeral.read (c :: rest)).mapValue ofNumber
      else
        .error (.next .noValue (c :: rest))

theorem valueOver_eq_number {item : Option (Reader Cause Json)} {text rest : List Char}
    {c : Char} (found : skipBlanks text = c :: rest)
    (other : c ∉ ['n', 't', 'f', '"', '[', '\x7b']) :
    valueOver item text =
      if c = '-' || c.isDigit then
        (Numeral.read (c :: rest)).mapValue ofNumber
      else
        .error (.next .noValue (c :: rest)) := by
  rw [valueOver, found]
  split <;> simp_all

theorem valueOver_consumes (item : Option (Reader Cause Json)) (text : List Char) :
    (valueOver item text).LeavesLess text.length := by
  have blanks := length_skipBlanks_le text
  unfold valueOver
  split <;> rename_i found <;> rw [found] at blanks <;>
    simp only [List.length_cons, List.length_nil] at blanks
  · exact Reading.leavesLess_error
  · exact (word_consumes _ _ _).mono (by omega)
  · exact (word_consumes _ _ _).mono (by omega)
  · exact (word_consumes _ _ _).mono (by omega)
  · exact ((Quoted.read_consumes _).mono (by omega)).mapValue _
  · split
    · exact Reading.leavesLess_error
    · exact ((items_consumes _ _).mono (by omega)).mapValue _
  · split
    · exact Reading.leavesLess_error
    · exact ((members_consumes _ _).mono (by omega)).mapValue _
  · split
    · exact ((Numeral.read_consumes _).mono (by simpa using blanks)).mapValue _
    · exact Reading.leavesLess_error

def value : Nat → Reader Cause Json
  | 0 => ⟨valueOver none, valueOver_consumes none⟩
  | levels + 1 => ⟨valueOver (some (value levels)), valueOver_consumes _⟩

def maxLevels : Nat := 127

def finish {κ α : Type} (trailing : κ) : Reading κ α → Except (Fault κ) α
  | .error fault => .error fault
  | .ok (value, rest) =>
      match skipBlanks rest with
      | [] => .ok value
      | rest => .error (.next trailing rest)

def read (text : List Char) : Except (Fault Cause) Json :=
  finish .trailingCharacters ((value maxLevels).run text)

end QueryDoc.Json
