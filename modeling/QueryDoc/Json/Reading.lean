import QueryDoc.Json.Fault

/-!
# Reading from the front of a text

A reading is a value and what is left of the text, or a fault.  A `Reader` is
bound to consume something whenever it succeeds, so that loops over readers
end.
-/

namespace QueryDoc.Json

abbrev Reading (κ α : Type) := Except (Fault κ) (α × List Char)

namespace Reading

variable {κ α β : Type}

def mapValue (f : α → β) : Reading κ α → Reading κ β
  | .error fault => .error fault
  | .ok (value, rest) => .ok (f value, rest)

def andThen (next : α → List Char → Reading κ β) : Reading κ α → Reading κ β
  | .error fault => .error fault
  | .ok (value, rest) => next value rest

/-- If the reading succeeds, fewer than `bound` characters are left. -/
def LeavesLess (bound : Nat) (reading : Reading κ α) : Prop :=
  ∀ value rest, reading = .ok (value, rest) → rest.length < bound

theorem leavesLess_ok {bound : Nat} {value : α} {rest : List Char}
    (shorter : rest.length < bound) :
    LeavesLess bound (.ok (value, rest) : Reading κ α) := by
  intro value' rest' same
  cases same
  exact shorter

theorem leavesLess_error {bound : Nat} {fault : Fault κ} :
    LeavesLess bound (.error fault : Reading κ α) := by
  intro value rest same
  cases same

theorem LeavesLess.mono {lower upper : Nat} {reading : Reading κ α}
    (within : reading.LeavesLess lower) (le : lower ≤ upper) :
    reading.LeavesLess upper :=
  fun value rest same => Nat.lt_of_lt_of_le (within value rest same) le

theorem LeavesLess.mapValue {bound : Nat} {reading : Reading κ α}
    (within : reading.LeavesLess bound) (f : α → β) :
    (reading.mapValue f).LeavesLess bound := by
  cases reading with
  | error fault => exact leavesLess_error
  | ok result => exact leavesLess_ok (within result.1 result.2 rfl)

theorem LeavesLess.andThen {bound : Nat} {reading : Reading κ α}
    {next : α → List Char → Reading κ β}
    (within : ∀ value rest, reading = .ok (value, rest) →
      (next value rest).LeavesLess bound) :
    (reading.andThen next).LeavesLess bound := by
  cases reading with
  | error fault => exact leavesLess_error
  | ok result => exact within result.1 result.2 rfl

end Reading

structure Reader (κ α : Type) where
  run : List Char → Reading κ α
  consumes : ∀ text, (run text).LeavesLess text.length

namespace Reader

variable {κ α : Type}

theorem shorter (reader : Reader κ α) {text rest : List Char} {value : α}
    (success : reader.run text = .ok (value, rest)) : rest.length < text.length :=
  reader.consumes text value rest success

end Reader

/-! ## Blanks -/

def isBlank (c : Char) : Bool :=
  c = ' ' || c = '\n' || c = '\t' || c = '\r'

def skipBlanks (text : List Char) : List Char :=
  text.dropWhile isBlank

theorem length_skipBlanks_le (text : List Char) :
    (skipBlanks text).length ≤ text.length :=
  (List.dropWhile_sublist isBlank).length_le

end QueryDoc.Json
