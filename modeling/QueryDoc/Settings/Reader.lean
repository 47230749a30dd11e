import QueryDoc.Json.Reader
import QueryDoc.Json.Skip
import QueryDoc.Settings.Fault

/-!
# Settings as JSON text

Settings are an object of named fields, or an array of them in order.  A field
that is not given has its default, and fields of other names are passed over.
-/

namespace QueryDoc.Settings

open Json (Fault Reading skipBlanks)

abbrev Read (α : Type) := Reading Cause α

def lift {α : Type} : Reading Json.Cause α → Read α
  | .error fault => .error (fault.map .json)
  | .ok result => .ok result

theorem lift_leavesLess {α : Type} {bound : Nat} {reading : Reading Json.Cause α}
    (within : reading.LeavesLess bound) : (lift reading).LeavesLess bound := by
  cases reading with
  | error fault => exact Reading.leavesLess_error
  | ok result => exact Reading.leavesLess_ok (within result.1 result.2 rfl)

def fail {α : Type} (fault : Fault Json.Cause) : Read α :=
  .error (fault.map .json)

/-! ## Values that do not belong -/

/-- The fault of a scalar, which stands behind it unless it is itself at fault. -/
def misfitOf {α β : Type} (wanted : Wanted) (describe : α → Misfit)
    (reading : Reading Json.Cause α) : Read β :=
  (lift reading).andThen fun value rest =>
    .error (.here (.misfit (describe value) wanted) rest)

def refuse {α : Type} (wanted : Wanted) (text : List Char) : Read α :=
  match text with
  | [] => fail (.next .unfinishedValue [])
  | 'n' :: rest => misfitOf wanted (fun () => .null) (Json.word () ['u', 'l', 'l'] rest)
  | 't' :: rest => misfitOf wanted .bool (Json.word true ['r', 'u', 'e'] rest)
  | 'f' :: rest => misfitOf wanted .bool (Json.word false ['a', 'l', 's', 'e'] rest)
  | '"' :: rest => misfitOf wanted (.string <| String.ofList ·) (Json.Quoted.read rest)
  | '[' :: rest => .error (.here (.misfit .array wanted) ('[' :: rest))
  | '\x7b' :: rest => .error (.here (.misfit .object wanted) ('\x7b' :: rest))
  | c :: rest =>
      if c = '-' || c.isDigit then
        misfitOf wanted .number (Json.Numeral.read (c :: rest))
      else
        fail (.next .noValue (c :: rest))

theorem misfitOf_leavesLess {α β : Type} {bound : Nat} (wanted : Wanted)
    (describe : α → Misfit) (reading : Reading Json.Cause α) :
    (misfitOf wanted describe reading : Read β).LeavesLess bound :=
  Reading.LeavesLess.andThen fun _ _ _ => Reading.leavesLess_error

theorem refuse_leavesLess {α : Type} {bound : Nat} (wanted : Wanted)
    (text : List Char) : (refuse wanted text : Read α).LeavesLess bound := by
  unfold refuse
  split
  all_goals first
    | exact misfitOf_leavesLess _ _ _
    | exact Reading.leavesLess_error
    | split
      · exact misfitOf_leavesLess _ _ _
      · exact Reading.leavesLess_error

/-! ## Fields -/

def depthOf (value : Number) (rest : List Char) : Read Nat :=
  match value with
  | .integer value =>
      if 0 ≤ value then
        .ok (value.toNat, rest)
      else
        .error (.here (.negativeDepth value) rest)
  | .float value => .error (.here (.misfit (.number (.float value)) .depth) rest)

def readDepth (text : List Char) : Read Nat :=
  match skipBlanks text with
  | [] => fail (.next .unfinishedValue [])
  | c :: rest =>
      if c = '-' || c.isDigit then
        (lift (Json.Numeral.read (c :: rest))).andThen depthOf
      else
        refuse .depth (c :: rest)

def readEscapingName (text : List Char) : Read Escaping :=
  (lift (Json.Quoted.read text)).andThen fun name rest =>
    match Escaping.ofName? (String.ofList name) with
    | some escaping => .ok (escaping, rest)
    | none => .error (.here (.unknownEscaping (String.ofList name)) rest)

def readNothing (text : List Char) : Read Unit :=
  match skipBlanks text with
  | [] => fail (.next .unfinishedObject [])
  | ':' :: rest =>
      match skipBlanks rest with
      | 'n' :: rest => lift (Json.word () ['u', 'l', 'l'] rest)
      | rest => refuse .nothing rest
  | rest => fail (.next .noColon rest)

/-- An escaping is its name, or an object in which its name has a null. -/
def readEscaping (text : List Char) : Read Escaping :=
  match skipBlanks text with
  | [] => fail (.next .unfinishedValue [])
  | '"' :: rest => readEscapingName rest
  | '\x7b' :: rest =>
      match skipBlanks rest with
      | [] => fail (.next .unfinishedObject [])
      | '"' :: rest =>
          (readEscapingName rest).andThen fun escaping rest =>
            (readNothing rest).andThen fun _ rest =>
              match skipBlanks rest with
              | [] => fail (.here .unfinishedObject [])
              | '\x7d' :: rest => .ok (escaping, rest)
              | rest => fail (.here .noValue rest)
      | '\x7d' :: rest => fail (.next .noValue ('\x7d' :: rest))
      | rest => fail (.next .keyNotString rest)
  | rest => fail (.next .noValue rest)

theorem readDepth_consumes (text : List Char) :
    (readDepth text).LeavesLess text.length := by
  have blanks := Json.length_skipBlanks_le text
  unfold readDepth
  split
  · exact Reading.leavesLess_error
  · rename_i c rest found
    rw [found] at blanks
    split
    · refine Reading.LeavesLess.andThen fun value rest success => ?_
      have := lift_leavesLess (Json.Numeral.read_consumes _) value rest success
      unfold depthOf
      split
      · split
        · exact Reading.leavesLess_ok (by omega)
        · exact Reading.leavesLess_error
      · exact Reading.leavesLess_error
    · exact refuse_leavesLess _ _

theorem readEscapingName_consumes (text : List Char) :
    (readEscapingName text).LeavesLess text.length := by
  refine Reading.LeavesLess.andThen fun name rest success => ?_
  have := lift_leavesLess (Json.Quoted.read_consumes _) name rest success
  split
  · exact Reading.leavesLess_ok this
  · exact Reading.leavesLess_error

theorem readNothing_consumes (text : List Char) :
    (readNothing text).LeavesLess text.length := by
  have outer := Json.length_skipBlanks_le text
  unfold readNothing
  split
  · exact Reading.leavesLess_error
  · rename_i rest found
    have inner := Json.length_skipBlanks_le rest
    rw [found, List.length_cons] at outer
    split
    · rename_i found
      rw [found, List.length_cons] at inner
      exact (lift_leavesLess (Json.word_consumes _ _ _)).mono (by omega)
    · exact refuse_leavesLess _ _
  · exact Reading.leavesLess_error

theorem readEscaping_consumes (text : List Char) :
    (readEscaping text).LeavesLess text.length := by
  have outer := Json.length_skipBlanks_le text
  unfold readEscaping
  split
  · exact Reading.leavesLess_error
  · rename_i found
    rw [found, List.length_cons] at outer
    exact (readEscapingName_consumes _).mono (by omega)
  · rename_i rest found
    have inner := Json.length_skipBlanks_le rest
    rw [found, List.length_cons] at outer
    split
    · exact Reading.leavesLess_error
    · rename_i found
      rw [found, List.length_cons] at inner
      refine Reading.LeavesLess.andThen fun escaping rest success => ?_
      have := readEscapingName_consumes _ escaping rest success
      refine Reading.LeavesLess.andThen fun _ rest success => ?_
      have := readNothing_consumes _ _ rest success
      have last := Json.length_skipBlanks_le rest
      split
      · exact Reading.leavesLess_error
      · rename_i found
        rw [found, List.length_cons] at last
        exact Reading.leavesLess_ok (by omega)
      · exact Reading.leavesLess_error
    · exact Reading.leavesLess_error
    · exact Reading.leavesLess_error
  · exact Reading.leavesLess_error

/-! ## Objects -/

structure Given where
  maxDepth : Option Nat := none
  escaping : Option Escaping := none
  deriving DecidableEq, Repr

namespace Given

def has (given : Given) : Field → Bool
  | .maxDepth => given.maxDepth.isSome
  | .escaping => given.escaping.isSome

def settings (given : Given) : Settings :=
  { maxDepth := given.maxDepth.getD ({} : Settings).maxDepth
    escaping := given.escaping.getD ({} : Settings).escaping }

end Given

def readField (given : Given) (text : List Char) : Option Field → Read Given
  | some .maxDepth =>
      (readDepth text).mapValue fun depth => { given with maxDepth := some depth }
  | some .escaping =>
      (readEscaping text).mapValue fun escaping => { given with escaping := some escaping }
  | none => (lift (Json.Skip.reader.run text)).mapValue fun _ => given

/-- A repeated field is found out once the blanks and the brace behind it are read. -/
def behindRepeated (text : List Char) : List Char :=
  match skipBlanks text with
  | '\x7d' :: rest => rest
  | rest => rest

def readMemberValue (given : Given) (name : List Char) (text : List Char) : Read Given :=
  let field? := Field.ofName? (String.ofList name)
  match field?.filter given.has with
  | some field => .error (.here (.repeatedField field) (behindRepeated text))
  | none =>
      match skipBlanks text with
      | [] => fail (.next .unfinishedObject [])
      | ':' :: rest => readField given rest field?
      | rest => fail (.next .noColon rest)

def readMember (given : Given) (text : List Char) : Read Given :=
  match text with
  | '"' :: rest => (lift (Json.Quoted.read rest)).andThen (readMemberValue given)
  | rest => fail (.next .keyNotString rest)

theorem readField_consumes (given : Given) (text : List Char) (field? : Option Field) :
    (readField given text field?).LeavesLess text.length := by
  unfold readField
  split
  · exact (readDepth_consumes _).mapValue _
  · exact (readEscaping_consumes _).mapValue _
  · exact (lift_leavesLess (Json.Skip.reader.consumes _)).mapValue _

theorem readMemberValue_consumes (given : Given) (name text : List Char) :
    (readMemberValue given name text).LeavesLess text.length := by
  have blanks := Json.length_skipBlanks_le text
  unfold readMemberValue
  dsimp only
  split
  · exact Reading.leavesLess_error
  · split
    · exact Reading.leavesLess_error
    · rename_i found
      rw [found, List.length_cons] at blanks
      exact (readField_consumes _ _ _).mono (by omega)
    · exact Reading.leavesLess_error

theorem readMember_consumes (given : Given) (text : List Char) :
    (readMember given text).LeavesLess text.length := by
  unfold readMember
  split
  · refine Reading.LeavesLess.andThen fun name rest success => ?_
    have := lift_leavesLess (Json.Quoted.read_consumes _) name rest success
    exact (readMemberValue_consumes _ _ _).mono (by simp only [List.length_cons]; omega)
  · exact Reading.leavesLess_error

def readMoreMembers (given : Given) (text : List Char) : Read Given :=
  match _h : skipBlanks text with
  | [] => fail (.next .unfinishedObject [])
  | '\x7d' :: rest => .ok (given, rest)
  | ',' :: rest =>
      match skipBlanks rest with
      | [] => fail (.next .unfinishedValue [])
      | '\x7d' :: rest => fail (.next .trailingComma ('\x7d' :: rest))
      | _ =>
          match _success : readMember given (skipBlanks rest) with
          | .error fault => .error fault
          | .ok (given, after) => readMoreMembers given after
  | rest => fail (.next .noObjectSeparator rest)
termination_by text.length
decreasing_by
  have outer := Json.length_skipBlanks_le text
  have inner := Json.length_skipBlanks_le rest
  have := readMember_consumes _ _ _ after _success
  simp only [_h, List.length_cons] at outer
  omega

def readMembers (text : List Char) : Read Given :=
  match skipBlanks text with
  | [] => fail (.next .unfinishedObject [])
  | '\x7d' :: rest => .ok ({}, rest)
  | rest => (readMember {} rest).andThen readMoreMembers

/-! ## Arrays -/

def readListEnd (settings : Settings) (text : List Char) : Read Settings :=
  match skipBlanks text with
  | [] => fail (.next .unfinishedList [])
  | ']' :: rest => .ok (settings, rest)
  | ',' :: rest =>
      match skipBlanks rest with
      | ']' :: rest => fail (.next .trailingComma (']' :: rest))
      | rest => fail (.next .trailingCharacters rest)
  | rest => fail (.next .trailingCharacters rest)

def readListTail (maxDepth : Nat) (text : List Char) : Read Settings :=
  match skipBlanks text with
  | [] => fail (.next .unfinishedList [])
  | ']' :: rest => .ok ({ maxDepth }, rest)
  | ',' :: rest =>
      match skipBlanks rest with
      | ']' :: rest => fail (.next .trailingComma (']' :: rest))
      | rest =>
          (readEscaping rest).andThen fun escaping rest =>
            readListEnd { maxDepth, escaping } rest
  | rest => fail (.next .noListSeparator rest)

def readList (text : List Char) : Read Settings :=
  match skipBlanks text with
  | [] => fail (.next .unfinishedList [])
  | ']' :: rest => .ok ({}, rest)
  | rest => (readDepth rest).andThen readListTail

/-! ## Files -/

def readText (text : List Char) : Read Settings :=
  match skipBlanks text with
  | '\x7b' :: rest => (readMembers rest).mapValue Given.settings
  | '[' :: rest => readList rest
  | rest => refuse .settings rest

def ofText (text : String) : Except LoadError Settings :=
  match Json.finish (.json .trailingCharacters) (readText text.toList) with
  | .ok settings => .ok settings
  | .error fault => .error (.malformed fault.cause (fault.position text.toList))

end QueryDoc.Settings
