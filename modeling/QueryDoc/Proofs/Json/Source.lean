import QueryDoc.Json.Reader
import QueryDoc.Proofs.Json.Integer

/-!
# JSON values with their numerals

In a source every number still has the text that it was read from.  A value is read
by reading a source and forgetting its numerals.

Main statement: `read_eq_json`.
-/

namespace QueryDoc.Json

/-! ## Readers of other values -/

section

variable {κ α β : Type}

theorem Reading.LeavesLess.of_mapValue {bound : Nat} {reading : Reading κ α} {f : α → β}
    (within : (reading.mapValue f).LeavesLess bound) : reading.LeavesLess bound := by
  rintro value rest rfl
  exact within (f value) rest rfl

theorem Reading.mapValue_andThen {γ : Type} (reading : Reading κ α)
    (next : α → List Char → Reading κ β) (f : β → γ) :
    (reading.andThen next).mapValue f =
      reading.andThen fun value rest => (next value rest).mapValue f := by
  cases reading <;> rfl

theorem Reading.andThen_mapValue {γ : Type} (reading : Reading κ α)
    (next : β → List Char → Reading κ γ) (f : α → β) :
    (reading.mapValue f).andThen next =
      reading.andThen fun value rest => next (f value) rest := by
  cases reading <;> rfl

theorem Reading.mapValue_mapValue {γ : Type} (reading : Reading κ α) (f : α → β)
    (g : β → γ) :
    (reading.mapValue f).mapValue g = reading.mapValue fun value => g (f value) := by
  cases reading <;> rfl

theorem Reading.andThen_congr {reading : Reading κ α}
    {next other : α → List Char → Reading κ β}
    (same : ∀ value rest, reading = .ok (value, rest) → next value rest = other value rest) :
    reading.andThen next = reading.andThen other := by
  cases reading with
  | error fault => rfl
  | ok result => exact same result.1 result.2 rfl

def Reader.map (f : α → β) (reader : Reader κ α) : Reader κ β :=
  ⟨fun text => (reader.run text).mapValue f, fun text => (reader.consumes text).mapValue f⟩

theorem Reader.run_map (f : α → β) (reader : Reader κ α) (text : List Char) :
    (reader.map f).run text = (reader.run text).mapValue f :=
  rfl

end

theorem Reader.eq_of_run {κ α : Type} {first second : Reader κ α}
    (same : first.run = second.run) : first = second := by
  cases first
  cases second
  cases same
  rfl

theorem word_mapValue {α β : Type} (f : α → β) (value : α) (letters text : List Char) :
    (word value letters text).mapValue f = word (f value) letters text := by
  fun_induction word value letters text with
  | case1 => rfl
  | case2 => rfl
  | case3 text letters value ih => rw [ih, word, if_pos rfl]
  | case4 letters value c text other => rw [word, if_neg other]; rfl

section

variable {α β : Type} (f : α → β) (item : Reader Cause α)

theorem moreItems_map (text : List Char) :
    moreItems (item.map f) text = (moreItems item text).mapValue (List.map f) := by
  induction size : text.length using Nat.strongRecOn generalizing text with
  | _ size ih =>
      subst size
      have shorter := length_skipBlanks_le text
      rw [moreItems_eq, moreItems_eq]
      split
      · rfl
      · rfl
      · rename_i rest found
        rw [found, List.length_cons] at shorter
        split
        · rfl
        · rw [Reading.mapValue_andThen, Reader.run_map, Reading.andThen_mapValue]
          refine Reading.andThen_congr fun first after success => ?_
          have := item.shorter success
          rw [ih after.length (by omega) after rfl, Reading.mapValue_mapValue,
            Reading.mapValue_mapValue]
          rfl
      · rfl

theorem items_map (text : List Char) :
    items (item.map f) text = (items item text).mapValue (List.map f) := by
  rw [items, items]
  split
  · rfl
  · rfl
  · rw [Reading.mapValue_andThen, Reader.run_map, Reading.andThen_mapValue]
    refine Reading.andThen_congr fun first rest _ => ?_
    rw [moreItems_map, Reading.mapValue_mapValue, Reading.mapValue_mapValue]
    rfl

theorem member_map (text : List Char) :
    member (item.map f) text = (member item text).mapValue (Prod.map id f) := by
  rw [member.eq_def, member.eq_def]
  split
  · rw [Reading.mapValue_andThen]
    refine Reading.andThen_congr fun key rest _ => ?_
    split
    · rfl
    · rw [Reader.run_map, Reading.mapValue_mapValue, Reading.mapValue_mapValue]
      rfl
    · rfl
  · rfl

theorem moreMembers_map (text : List Char) :
    moreMembers (item.map f) text =
      (moreMembers item text).mapValue (List.map (Prod.map id f)) := by
  induction size : text.length using Nat.strongRecOn generalizing text with
  | _ size ih =>
      subst size
      have shorter := length_skipBlanks_le text
      rw [moreMembers_eq, moreMembers_eq]
      split
      · rfl
      · rfl
      · rename_i rest found
        rw [found, List.length_cons] at shorter
        have inner := length_skipBlanks_le rest
        split
        · rfl
        · rfl
        · rw [Reading.mapValue_andThen, member_map, Reading.andThen_mapValue]
          refine Reading.andThen_congr fun first after success => ?_
          have := member_consumes item _ first after success
          rw [ih after.length (by omega) after rfl, Reading.mapValue_mapValue,
            Reading.mapValue_mapValue]
          rfl
      · rfl

theorem members_map (text : List Char) :
    members (item.map f) text = (members item text).mapValue (List.map (Prod.map id f)) := by
  rw [members, members]
  split
  · rfl
  · rfl
  · rw [Reading.mapValue_andThen, member_map, Reading.andThen_mapValue]
    refine Reading.andThen_congr fun first rest _ => ?_
    rw [moreMembers_map, Reading.mapValue_mapValue, Reading.mapValue_mapValue]
    rfl

end

/-! ## Sources -/

inductive Source where
  | null
  | bool (value : Bool)
  | number (numeral : Numeral.Occurrence)
  | string (value : String)
  | array (items : List Source)
  | object (members : List (String × Source))

namespace Source

abbrev Members := List (String × Source)

mutual

def json : Source → Json
  | .null => .null
  | .bool value => .bool value
  | .number numeral => Json.ofNumber numeral.number
  | .string value => .string value
  | .array items => .array (jsonItems items)
  | .object members => .object (jsonMembers members)

def jsonItems : List Source → List Json
  | [] => []
  | item :: items => item.json :: jsonItems items

def jsonMembers : List (String × Source) → Json.Members
  | [] => []
  | (key, value) :: members => (key, value.json) :: jsonMembers members

end

theorem jsonItems_eq (items : List Source) : jsonItems items = items.map json := by
  induction items with
  | nil => rw [jsonItems, List.map_nil]
  | cons item items ih => rw [jsonItems, List.map_cons, ih]

theorem jsonMembers_eq (members : Members) :
    jsonMembers members = members.map (Prod.map id json) := by
  induction members with
  | nil => rw [jsonMembers, List.map_nil]
  | cons member members ih => rw [jsonMembers, List.map_cons, ih]; rfl

def put (key : String) (value : Source) : Members → Members
  | [] => [(key, value)]
  | (known, old) :: members =>
      if known = key then
        (key, value) :: members
      else
        (known, old) :: put key value members

def ofEntries (entries : Members) : Source :=
  .object (entries.foldl (fun members entry => put entry.1 entry.2 members) [])

def get? (members : Members) (key : String) : Option Source :=
  members.lookup key

theorem map_put (key : String) (value : Source) (members : Members) :
    (put key value members).map (Prod.map id json) =
      Json.put key value.json (members.map (Prod.map id json)) := by
  induction members with
  | nil => rfl
  | cons member members ih =>
      obtain ⟨known, old⟩ := member
      by_cases same : known = key
      · simp [put, Json.put, same]
      · simp [put, Json.put, same, ih]

theorem map_foldl_put (entries members : Members) :
    (entries.foldl (fun members entry => put entry.1 entry.2 members) members).map
        (Prod.map id json) =
      (entries.map (Prod.map id json)).foldl
        (fun members entry => Json.put entry.1 entry.2 members)
        (members.map (Prod.map id json)) := by
  induction entries generalizing members with
  | nil => rfl
  | cons entry entries ih => rw [List.foldl_cons, ih, map_put]; rfl

theorem json_ofEntries (entries : Members) :
    (ofEntries entries).json = Json.ofEntries (entries.map (Prod.map id json)) := by
  rw [ofEntries, json, jsonMembers_eq, map_foldl_put]
  rfl

theorem get?_json (members : Members) (key : String) :
    Json.get? (jsonMembers members) key = (get? members key).map json := by
  rw [jsonMembers_eq]
  induction members with
  | nil => rfl
  | cons member members ih =>
      obtain ⟨known, value⟩ := member
      rw [Json.get?, get?] at ih ⊢
      simp only [List.map_cons, Prod.map, List.lookup_cons, id_eq, ih]
      cases key == known <;> rfl

/-! ## Reading -/

def occurrence (text : List Char) : Reading Cause Numeral.Occurrence :=
  match success : Numeral.read text with
  | .error fault => .error fault
  | .ok (found, rest) => .ok (⟨text, found, rest, success⟩, rest)

theorem number_occurrence (text : List Char) :
    (occurrence text).mapValue (·.number) = Numeral.read text := by
  unfold occurrence
  split <;> rename_i success <;> exact success.symm

def valueOver (item : Option (Reader Cause Source)) (text : List Char) :
    Reading Cause Source :=
  match skipBlanks text with
  | [] => .error (.next .unfinishedValue [])
  | 'n' :: rest => word .null ['u', 'l', 'l'] rest
  | 't' :: rest => word (.bool true) ['r', 'u', 'e'] rest
  | 'f' :: rest => word (.bool false) ['a', 'l', 's', 'e'] rest
  | '"' :: rest => (Quoted.read rest).mapValue (.string <| String.ofList ·)
  | '[' :: rest =>
      match item with
      | none => .error (.next .tooManyLevels ('[' :: rest))
      | some item => (items item rest).mapValue .array
  | '\x7b' :: rest =>
      match item with
      | none => .error (.next .tooManyLevels ('\x7b' :: rest))
      | some item => (members item rest).mapValue ofEntries
  | c :: rest =>
      if c = '-' || c.isDigit then
        (occurrence (c :: rest)).mapValue .number
      else
        .error (.next .noValue (c :: rest))

theorem valueOver_eq_number {item : Option (Reader Cause Source)} {text rest : List Char}
    {c : Char} (found : skipBlanks text = c :: rest)
    (other : c ∉ ['n', 't', 'f', '"', '[', '\x7b']) :
    valueOver item text =
      if c = '-' || c.isDigit then
        (occurrence (c :: rest)).mapValue .number
      else
        .error (.next .noValue (c :: rest)) := by
  rw [valueOver, found]
  split <;> simp_all

theorem json_valueOver (item : Option (Reader Cause Source)) (text : List Char) :
    (valueOver item text).mapValue json = Json.valueOver (item.map (Reader.map json)) text := by
  cases found : skipBlanks text with
  | nil =>
      rw [valueOver, Json.valueOver, found]
      rfl
  | cons c rest =>
      by_cases letter : c ∈ ['n', 't', 'f', '"', '[', '\x7b']
      · rw [valueOver, Json.valueOver, found]
        simp only [List.mem_cons, List.not_mem_nil, or_false] at letter
        rcases letter with rfl | rfl | rfl | rfl | rfl | rfl
        · exact word_mapValue json _ _ _
        · exact word_mapValue json _ _ _
        · exact word_mapValue json _ _ _
        · exact Reading.mapValue_mapValue _ _ _
        · cases item with
          | none => rfl
          | some item =>
              simp only [Option.map_some, items_map, Reading.mapValue_mapValue, json,
                jsonItems_eq]
        · cases item with
          | none => rfl
          | some item =>
              simp only [Option.map_some, members_map, Reading.mapValue_mapValue,
                json_ofEntries]
      · rw [valueOver_eq_number found letter, Json.valueOver_eq_number found letter]
        split
        · rw [← number_occurrence, Reading.mapValue_mapValue, Reading.mapValue_mapValue]
          simp only [json]
        · rfl

theorem valueOver_consumes (item : Option (Reader Cause Source)) (text : List Char) :
    (valueOver item text).LeavesLess text.length := by
  have within := Json.valueOver_consumes (item.map (Reader.map json)) text
  rw [← json_valueOver] at within
  exact within.of_mapValue

def value : Nat → Reader Cause Source
  | 0 => ⟨valueOver none, valueOver_consumes none⟩
  | levels + 1 => ⟨valueOver (some (value levels)), valueOver_consumes _⟩

def read (text : List Char) : Except (Fault Cause) Source :=
  finish .trailingCharacters ((value maxLevels).run text)

theorem json_value (levels : Nat) : (value levels).map json = Json.value levels := by
  induction levels with
  | zero => exact Reader.eq_of_run (funext fun text => json_valueOver none text)
  | succ levels ih =>
      refine Reader.eq_of_run (funext fun text => ?_)
      change (valueOver (some (value levels)) text).mapValue json =
        Json.valueOver (some (Json.value levels)) text
      rw [json_valueOver, Option.map_some, ih]

theorem read_eq_json (text : List Char) : Json.read text = (read text).map json := by
  rw [read, Json.read, ← json_value, Reader.run_map]
  cases (value maxLevels).run text with
  | error fault => rfl
  | ok result =>
      obtain ⟨source, rest⟩ := result
      rw [Reading.mapValue, finish, finish]
      cases skipBlanks rest <;> rfl

end Source

end QueryDoc.Json
