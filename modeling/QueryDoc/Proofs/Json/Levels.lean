import QueryDoc.Json.Reader
import QueryDoc.Proofs.Json.Strings

/-!
# Levels of JSON values

A value has as many levels as there are arrays and objects around each other in it.  What
is read has no more of them than its reader allows, and objects that only nest in each
other are read if the reader allows as many.

Main statements: `levels_le_of_read`, `run_chain`.
-/

namespace QueryDoc.Json

/-! ## What holds of all that is read -/

section

variable {κ α β : Type}

def Reading.Yields (property : α → Prop) (reading : Reading κ α) : Prop :=
  ∀ value rest, reading = .ok (value, rest) → property value

def Reader.Yields (property : α → Prop) (reader : Reader κ α) : Prop :=
  ∀ text, (reader.run text).Yields property

namespace Reading

theorem yields_ok {property : α → Prop} {value : α} (holds : property value)
    (rest : List Char) : Yields property (.ok (value, rest) : Reading κ α) := by
  intro value' rest' same
  cases same
  exact holds

theorem yields_error {property : α → Prop} {fault : Fault κ} :
    Yields property (.error fault : Reading κ α) := by
  intro value rest same
  cases same

theorem yields_true (reading : Reading κ α) : reading.Yields fun _ => True :=
  fun _ _ _ => trivial

theorem Yields.mapValue {property : α → Prop} {other : β → Prop} {reading : Reading κ α}
    (yields : reading.Yields property) {f : α → β}
    (carried : ∀ value, property value → other (f value)) :
    (reading.mapValue f).Yields other := by
  cases reading with
  | error fault => exact yields_error
  | ok result =>
      exact yields_ok (carried result.1 (yields result.1 result.2 rfl)) result.2

theorem Yields.andThen {property : α → Prop} {other : β → Prop} {reading : Reading κ α}
    (yields : reading.Yields property) {next : α → List Char → Reading κ β}
    (follows : ∀ value rest, property value → (next value rest).Yields other) :
    (reading.andThen next).Yields other := by
  cases reading with
  | error fault => exact yields_error
  | ok result => exact follows result.1 result.2 (yields result.1 result.2 rfl)

end Reading

end

theorem word_yields {α : Type} (property : α → Prop) {value : α} (holds : property value)
    (letters text : List Char) : (word value letters text).Yields property := by
  induction letters generalizing text with
  | nil =>
      rw [word]
      exact Reading.yields_ok holds text
  | cons letter letters ih =>
      cases text with
      | nil =>
          rw [word]
          exact Reading.yields_error
      | cons c text =>
          rw [word]
          split
          · exact ih text
          · exact Reading.yields_error

section

variable {α : Type} {item : Reader Cause α} {property : α → Prop}

theorem moreItems_yields (each : item.Yields property) (text : List Char) :
    (moreItems item text).Yields fun values => ∀ value ∈ values, property value := by
  fun_induction moreItems item text with
  | case2 text rest => exact Reading.yields_ok (by simp) rest
  | case5 text rest _ first after success _ ih =>
      refine ih.mapValue fun others inside => ?_
      exact List.forall_mem_cons.mpr ⟨each rest first after success, inside⟩
  | case1 | case3 | case4 | case6 => exact Reading.yields_error

theorem items_yields (each : item.Yields property) (text : List Char) :
    (items item text).Yields fun values => ∀ value ∈ values, property value := by
  unfold items
  split
  · exact Reading.yields_error
  · exact Reading.yields_ok (by simp) _
  · refine (each _).andThen fun first rest holds => ?_
    refine (moreItems_yields each rest).mapValue fun others inside => ?_
    exact List.forall_mem_cons.mpr ⟨holds, inside⟩

theorem member_yields (each : item.Yields property) (text : List Char) :
    (member item text).Yields fun entry => property entry.2 := by
  unfold member
  split
  · refine (Reading.yields_true _).andThen fun key rest _ => ?_
    split
    · exact Reading.yields_error
    · exact (each _).mapValue fun value holds => holds
    · exact Reading.yields_error
  · exact Reading.yields_error

theorem moreMembers_yields (each : item.Yields property) (text : List Char) :
    (moreMembers item text).Yields fun entries => ∀ entry ∈ entries, property entry.2 := by
  fun_induction moreMembers item text with
  | case2 text rest => exact Reading.yields_ok (by simp) rest
  | case6 text rest _ first after success _ _ ih =>
      refine ih.mapValue fun others inside => ?_
      exact List.forall_mem_cons.mpr ⟨member_yields each _ first after success, inside⟩
  | case1 | case3 | case4 | case5 | case7 => exact Reading.yields_error

theorem members_yields (each : item.Yields property) (text : List Char) :
    (members item text).Yields fun entries => ∀ entry ∈ entries, property entry.2 := by
  unfold members
  split
  · exact Reading.yields_error
  · exact Reading.yields_ok (by simp) _
  · refine (member_yields each _).andThen fun first rest holds => ?_
    refine (moreMembers_yields each rest).mapValue fun others inside => ?_
    exact List.forall_mem_cons.mpr ⟨holds, inside⟩

end

/-! ## Levels -/

mutual

def levels : Json → Nat
  | .array items => itemLevels items + 1
  | .object members => memberLevels members + 1
  | .null | .bool _ | .number _ | .string _ => 0

def itemLevels : List Json → Nat
  | [] => 0
  | item :: items => max item.levels (itemLevels items)

def memberLevels : List (String × Json) → Nat
  | [] => 0
  | (_, value) :: members => max value.levels (memberLevels members)

end

theorem levels_ofNumber (number : Number) : (ofNumber number).levels = 0 := by
  rcases ofNumber_eq_null_or number with null | ⟨stored, kept⟩
  · rw [null, levels]
  · rw [kept, levels]

theorem itemLevels_le_iff {items : List Json} {bound : Nat} :
    itemLevels items ≤ bound ↔ ∀ item ∈ items, item.levels ≤ bound := by
  induction items with
  | nil => simp [itemLevels]
  | cons item items ih => rw [itemLevels, Nat.max_le, ih, List.forall_mem_cons]

theorem memberLevels_put_le {key : String} {value : Json} {members : Members} {bound : Nat}
    (new : value.levels ≤ bound) (old : memberLevels members ≤ bound) :
    memberLevels (put key value members) ≤ bound := by
  induction members with
  | nil => simpa [put, memberLevels] using new
  | cons member members ih =>
      rw [memberLevels, Nat.max_le] at old
      rw [put]
      split
      · exact Nat.max_le.mpr ⟨new, old.2⟩
      · exact Nat.max_le.mpr ⟨old.1, ih old.2⟩

theorem levels_ofEntries_le {entries : Members} {bound : Nat}
    (each : ∀ entry ∈ entries, entry.2.levels ≤ bound) :
    (ofEntries entries).levels ≤ bound + 1 := by
  have put (members : Members) (old : memberLevels members ≤ bound) :
      memberLevels (entries.foldl (fun members entry => put entry.1 entry.2 members) members)
        ≤ bound := by
    induction entries generalizing members with
    | nil => exact old
    | cons entry entries ih =>
        rw [List.forall_mem_cons] at each
        exact ih each.2 _ (memberLevels_put_le each.1 old)
  rw [ofEntries, levels]
  exact Nat.succ_le_succ (put [] (Nat.zero_le _))

theorem levels_le_of_get? {members : Members} {key : String} {value : Json}
    (found : get? members key = some value) : value.levels ≤ memberLevels members := by
  induction members with
  | nil => simp [get?] at found
  | cons member members ih =>
      obtain ⟨known, first⟩ := member
      rw [memberLevels]
      rw [get?, List.lookup_cons] at found
      split at found
      · cases found
        exact Nat.le_max_left _ _
      · exact Nat.le_trans (ih found) (Nat.le_max_right _ _)

/-! ## No more levels than allowed -/

theorem valueOver_yields {item : Option (Reader Cause Json)} {bound : Nat}
    (inner : ∀ reader, item = some reader →
      ∃ below < bound, reader.Yields fun value => value.levels ≤ below)
    (text : List Char) : (valueOver item text).Yields fun value => value.levels ≤ bound := by
  have flat {value : Json} (scalar : value.levels = 0) (letters rest : List Char) :
      (word value letters rest).Yields fun value => value.levels ≤ bound :=
    word_yields (fun value : Json => value.levels ≤ bound) (by omega) letters rest
  unfold valueOver
  split
  · exact Reading.yields_error
  · exact flat rfl _ _
  · exact flat rfl _ _
  · exact flat rfl _ _
  · exact (Reading.yields_true _).mapValue fun _ _ => Nat.zero_le bound
  · split
    · exact Reading.yields_error
    · obtain ⟨below, less, yields⟩ := inner _ rfl
      refine (items_yields yields _).mapValue fun items each => ?_
      exact Nat.le_trans (Nat.succ_le_succ (itemLevels_le_iff.mpr each)) less
  · split
    · exact Reading.yields_error
    · obtain ⟨below, less, yields⟩ := inner _ rfl
      refine (members_yields yields _).mapValue fun entries each => ?_
      exact Nat.le_trans (levels_ofEntries_le each) less
  · split
    · exact (Reading.yields_true _).mapValue fun number _ =>
        Nat.le_trans (Nat.le_of_eq (levels_ofNumber number)) (Nat.zero_le bound)
    · exact Reading.yields_error

theorem value_yields (allowed : Nat) :
    (value allowed).Yields fun value => value.levels ≤ allowed := by
  induction allowed with
  | zero =>
      intro text
      change (valueOver none text).Yields _
      exact valueOver_yields (by simp) text
  | succ allowed ih =>
      intro text
      change (valueOver (some (value allowed)) text).Yields _
      refine valueOver_yields (fun reader same => ?_) text
      cases same
      exact ⟨allowed, Nat.lt_succ_self allowed, ih⟩

theorem levels_le_of_read {text : List Char} {json : Json} (success : read text = .ok json) :
    json.levels ≤ maxLevels := by
  unfold read finish at success
  split at success
  · cases success
  · rename_i found
    split at success
    · cases success
      exact value_yields maxLevels text json _ found
    · cases success

/-! ## As many levels as allowed -/

def IsPlain (text : List Char) : Prop :=
  ∀ c ∈ text, c ≠ '"' ∧ c ≠ '\\' ∧ 32 ≤ c.toNat

theorem Quoted.read_plain {text : List Char} (plain : IsPlain text) (rest : List Char) :
    Quoted.read (text ++ '"' :: rest) = .ok (text, rest) :=
  (spells_plain plain).read rest

section

variable (item : Reader Cause Json) {key : List Char} (plain : IsPlain key) (text : List Char)

include plain

theorem member_plain :
    member item ('"' :: (key ++ '"' :: ':' :: text)) =
      (item.run text).mapValue fun value => (String.ofList key, value) := by
  rw [member, Quoted.read_plain plain]
  rfl

theorem members_plain :
    members item ('"' :: (key ++ '"' :: ':' :: text)) =
      (item.run text).andThen fun value rest =>
        (moreMembers item rest).mapValue ((String.ofList key, value) :: ·) := by
  have start : skipBlanks ('"' :: (key ++ '"' :: ':' :: text)) =
      '"' :: (key ++ '"' :: ':' :: text) := rfl
  rw [members_eq_andThen start (by decide), member_plain item plain]
  cases item.run text <;> rfl

theorem moreMembers_plain :
    moreMembers item (',' :: '"' :: (key ++ '"' :: ':' :: text)) =
      (item.run text).andThen fun value rest =>
        (moreMembers item rest).mapValue ((String.ofList key, value) :: ·) := by
  have comma : skipBlanks (',' :: '"' :: (key ++ '"' :: ':' :: text)) =
      ',' :: '"' :: (key ++ '"' :: ':' :: text) := rfl
  have start : skipBlanks ('"' :: (key ++ '"' :: ':' :: text)) =
      '"' :: (key ++ '"' :: ':' :: text) := rfl
  rw [moreMembers_eq, comma]
  simp only [start]
  rw [member_plain item plain]
  cases item.run text <;> rfl

end

theorem moreMembers_closed (item : Reader Cause Json) (rest : List Char) :
    moreMembers item ('\x7d' :: rest) = .ok ([], rest) := by
  have start : skipBlanks ('\x7d' :: rest) = '\x7d' :: rest := rfl
  rw [moreMembers_eq, start]
  rfl

def chain : Nat → Members
  | 0 => []
  | count + 1 => [("and", .object (chain count))]

def chainText : Nat → List Char
  | 0 => ['\x7b', '\x7d']
  | count + 1 => ['\x7b', '"', 'a', 'n', 'd', '"', ':'] ++ chainText count ++ ['\x7d']

theorem run_chain {count allowed : Nat} (within : count < allowed) (rest : List Char) :
    (value allowed).run (chainText count ++ rest) = .ok (.object (chain count), rest) := by
  induction count generalizing allowed rest with
  | zero =>
      obtain ⟨inner, rfl⟩ := Nat.exists_eq_succ_of_ne_zero (Nat.ne_of_gt within)
      rfl
  | succ count ih =>
      obtain ⟨inner, rfl⟩ := Nat.exists_eq_succ_of_ne_zero (by omega : allowed ≠ 0)
      have plain : IsPlain ['a', 'n', 'd'] := by simp [IsPlain]
      have text : chainText (count + 1) ++ rest = '\x7b' :: '"' ::
          (['a', 'n', 'd'] ++ '"' :: ':' :: (chainText count ++ '\x7d' :: rest)) := by
        simp [chainText]
      rw [text]
      change (members (value inner) _).mapValue ofEntries = _
      rw [members_plain (value inner) plain, ih (by omega)]
      change ((moreMembers (value inner) ('\x7d' :: rest)).mapValue _).mapValue _ = _
      rw [moreMembers_closed]
      rfl

end QueryDoc.Json
