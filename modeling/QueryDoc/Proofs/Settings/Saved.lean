import QueryDoc.Proofs.CommandLine.Sources
import QueryDoc.Proofs.Json.Integer

/-!
# Settings saved and loaded

Settings are loaded from the text of any object in which their fields stand, in any order,
with blanks between tokens and among members of other names.  What is left out has its
default.  In particular the text that they are saved as gives them back.

Main statement: `load_of_isObject`.
-/

namespace QueryDoc.Settings

open Json (Reading Blanks Conforms Padded Spells Entries IsMember IsObject skipBlanks
  skipBlanks_append skipBlanks_append_cons skipBlanks_of_not_isBlank ends_of_mem)

/-! ## Fields -/

inductive Written (settings : Settings) : Field → List Char → Prop where
  | maxDepth : Written settings .maxDepth (toString settings.maxDepth).toList
  | escaping {name : List Char} (spelled : Spells settings.escaping.name.toList name) :
      Written settings .escaping ('"' :: (name ++ ['"']))

def WrittenIn (settings : Settings) (entries : List (String × List Char)) : Prop :=
  ∀ entry ∈ entries, ∀ field : Field, entry.1 = field.name → Written settings field entry.2

/-- What is given once the members of these names have been read. -/
def Given.among (settings : Settings) (names : List String) : Given :=
  { maxDepth := if Field.maxDepth.name ∈ names then some settings.maxDepth else none
    escaping := if Field.escaping.name ∈ names then some settings.escaping else none }

def keep (settings : Settings) (names : List String) : Settings :=
  { maxDepth :=
      if Field.maxDepth.name ∈ names then settings.maxDepth else ({} : Settings).maxDepth
    escaping :=
      if Field.escaping.name ∈ names then settings.escaping else ({} : Settings).escaping }

theorem Field.ofName?_eq_some_iff {name : String} {field : Field} :
    ofName? name = some field ↔ name = field.name := by
  constructor
  · intro found
    unfold ofName? at found
    split at found <;> cases found <;> rfl
  · rintro rfl
    exact ofName?_name field

theorem Field.eq_of_name_eq {field other : Field} (same : field.name = other.name) :
    field = other := by
  rw [← ofName?_eq_some_iff, ofName?_name] at same
  exact Option.some.inj same

theorem Given.settings_among (settings : Settings) (names : List String) :
    (among settings names).settings = settings.keep names := by
  rw [Given.settings, keep]
  refine congrArg₂ Settings.mk ?_ ?_
  · by_cases found : Field.maxDepth.name ∈ names <;> simp [among, found]
  · by_cases found : Field.escaping.name ∈ names <;> simp [among, found]

theorem Given.has_among (settings : Settings) (names : List String) (field : Field) :
    (among settings names).has field = decide (field.name ∈ names) := by
  cases field with
  | maxDepth => by_cases found : Field.maxDepth.name ∈ names <;> simp [has, among, found]
  | escaping => by_cases found : Field.escaping.name ∈ names <;> simp [has, among, found]

theorem Given.among_append_maxDepth (settings : Settings) (names : List String) :
    among settings (names ++ [Field.maxDepth.name]) =
      { among settings names with maxDepth := some settings.maxDepth } :=
  congrArg₂ Given.mk (if_pos (by simp)) (if_congr (by simp [Field.name]) rfl rfl)

theorem Given.among_append_escaping (settings : Settings) (names : List String) :
    among settings (names ++ [Field.escaping.name]) =
      { among settings names with escaping := some settings.escaping } :=
  congrArg₂ Given.mk (if_congr (by simp [Field.name]) rfl rfl) (if_pos (by simp))

theorem Given.among_append_of_ofName? {settings : Settings} {name : String}
    (unknown : Field.ofName? name = none) (names : List String) :
    among settings (names ++ [name]) = among settings names := by
  have other (field : Field) : field.name ≠ name := by
    rintro rfl
    rw [Field.ofName?_name] at unknown
    cases unknown
  refine congrArg₂ Given.mk (if_congr ?_ rfl rfl) (if_congr ?_ rfl rfl)
  · simp [other]
  · simp [other]

/-! ## Values of fields -/

theorem toList_toString (number : Nat) : (toString number).toList = Nat.toDigits 10 number := by
  simp [Nat.repr]

theorem readDepth_digits {digits rest : List Char} {number : Nat}
    (isDigits : Decimal.IsDigits digits)
    (success : Json.Numeral.read (digits ++ rest) = .ok (.integer number, rest)) :
    readDepth (digits ++ rest) = .ok (number, rest) := by
  cases digits with
  | nil => exact (isDigits.1 rfl).elim
  | cons c digits =>
      have first : c.isDigit = true := isDigits.2 c List.mem_cons_self
      rw [List.cons_append] at success ⊢
      rw [readDepth, skipBlanks_of_not_isBlank (Json.Skip.numeral_opens (.inr first)).1]
      simp only [first, Bool.or_true, if_true, success]
      rfl

theorem readDepth_append {blanks : List Char} (before : Blanks blanks) (text : List Char) :
    readDepth (blanks ++ text) = readDepth text := by
  rw [readDepth, skipBlanks_append before]
  rfl

theorem readEscaping_string {blanks name : List Char} (before : Blanks blanks)
    {escaping : Escaping} (spelled : Spells escaping.name.toList name) (rest : List Char) :
    readEscaping (blanks ++ '"' :: (name ++ '"' :: rest)) = .ok (escaping, rest) := by
  rw [readEscaping, skipBlanks_append_cons before (by decide)]
  change readEscapingName (name ++ '"' :: rest) = _
  rw [readEscapingName, spelled.read]
  simp only [lift, Reading.andThen, String.ofList_toList, Escaping.ofName?_name]

theorem readMoreMembers_eq (given : Given) (text : List Char) :
    readMoreMembers given text =
      match skipBlanks text with
      | [] => fail (.next .unfinishedObject [])
      | '\x7d' :: rest => .ok (given, rest)
      | ',' :: rest =>
          match skipBlanks rest with
          | [] => fail (.next .unfinishedValue [])
          | '\x7d' :: rest => fail (.next .trailingComma ('\x7d' :: rest))
          | _ => (readMember given (skipBlanks rest)).andThen readMoreMembers
      | rest => fail (.next .noObjectSeparator rest) := by
  rw [readMoreMembers]
  split
  case h_3 rest found =>
    simp only [found]
    cases readMember given (skipBlanks rest) <;> rfl
  case h_4 none brace comma =>
    split
    · contradiction
    · exact (brace _ ‹_›).elim
    · exact (comma _ ‹_›).elim
    · rfl
  all_goals simp only [*]

theorem readMoreMembers_comma (given : Given) {blanks rest tail : List Char}
    (before : Blanks blanks) (opens : skipBlanks rest = '"' :: tail) :
    readMoreMembers given (blanks ++ ',' :: rest) =
      (readMember given (skipBlanks rest)).andThen readMoreMembers := by
  rw [readMoreMembers_eq, skipBlanks_append_cons before (by decide)]
  simp only [opens]
  rfl

theorem entries_open {entries : List (String × List Char)} {text : List Char}
    (members : Entries entries text) (rest : List Char) :
    ∃ tail, skipBlanks (text ++ rest) = '"' :: tail := by
  cases members with
  | one _ _ member => exact Json.member_opens member rest
  | more _ _ member =>
      rw [List.append_assoc]
      exact Json.member_opens member _

theorem readMembers_empty {blanks : List Char} (inside : Blanks blanks) (rest : List Char) :
    readMembers (blanks ++ '\x7d' :: rest) = .ok ({}, rest) := by
  rw [readMembers, skipBlanks_append_cons inside (by decide)]
  rfl

theorem readText_opened {blanks : List Char} (before : Blanks blanks) (text : List Char) :
    readText (blanks ++ '\x7b' :: text) = (readMembers text).mapValue Given.settings := by
  rw [readText, skipBlanks_append_cons before (by decide)]
  rfl

section

variable {settings : Settings} (bounded : settings.maxDepth < Word.bound)

include bounded

theorem readField_written {field : Field} {value item : List Char}
    (written : Written settings field value) (padded : Padded value item) :
    ∃ blanks, Blanks blanks ∧ ∀ names c rest, c ∈ [',', ']', '\x7d'] →
      readField (.among settings names) (item ++ c :: rest) (some field) =
        .ok (.among settings (names ++ [field.name]), blanks ++ c :: rest) := by
  obtain ⟨before, behind⟩ := padded
  refine ⟨_, behind, fun names c rest token => ?_⟩
  cases written with
  | maxDepth =>
      have success := Json.Numeral.read_of_natural? (Json.Numeral.natural?_toDigits _) bounded
        (ends_of_mem token behind rest)
      rw [readField, List.append_assoc, List.append_assoc, readDepth_append before, toList_toString,
        readDepth_digits (Decimal.isDigits_toDigits _) success, Given.among_append_maxDepth]
      rfl
  | escaping spelled =>
      rw [readField]
      simp only [List.append_assoc, List.cons_append, List.nil_append]
      rw [readEscaping_string before spelled, Given.among_append_escaping]
      rfl

/-! ## Members -/

theorem readField_valid {key : String} {value item : List Char} (valid : Conforms .value value)
    (padded : Padded value item)
    (written : ∀ field : Field, key = field.name → Written settings field value) :
    ∃ blanks, Blanks blanks ∧ ∀ names c rest, c ∈ [',', ']', '\x7d'] →
      readField (.among settings names) (item ++ c :: rest) (Field.ofName? key) =
        .ok (.among settings (names ++ [key]), blanks ++ c :: rest) := by
  cases found : Field.ofName? key with
  | some field =>
      cases Field.ofName?_eq_some_iff.mp found
      exact readField_written bounded (written field rfl) padded
  | none =>
      obtain ⟨blanks, behind, passed⟩ := valid.skip padded
      refine ⟨blanks, behind, fun names c rest token => ?_⟩
      rw [readField, passed c rest token, Given.among_append_of_ofName? found]
      rfl

theorem readMember_valid {key : String} {name value text : List Char}
    (spelled : Spells key.toList name) (valid : Conforms .value value)
    (member : IsMember name value text)
    (written : ∀ field : Field, key = field.name → Written settings field value) :
    ∃ blanks, Blanks blanks ∧ ∀ names c rest, c ∈ [',', ']', '\x7d'] → key ∉ names →
      readMember (.among settings names) (skipBlanks (text ++ c :: rest)) =
        .ok (.among settings (names ++ [key]), blanks ++ c :: rest) := by
  obtain ⟨⟨before, between⟩, padded⟩ := member
  obtain ⟨blanks, behind, read⟩ := readField_valid bounded valid padded written
  refine ⟨blanks, behind, fun names c rest token new => ?_⟩
  have unseen : (Field.ofName? key).filter (Given.among settings names).has = none := by
    rw [Option.filter_eq_none_iff]
    intro field found
    simp [Given.has_among, ← Field.ofName?_eq_some_iff.mp found, new]
  simp only [List.append_assoc, List.cons_append, List.nil_append]
  rw [skipBlanks_append_cons before (by decide), readMember, spelled.read]
  simp only [lift, Reading.andThen, readMemberValue, String.ofList_toList, unseen]
  rw [skipBlanks_append_cons between (by decide)]
  exact read names c rest token

/-- The names that stand before a member are those of `names`, and none comes twice. -/
theorem readMembers_entries {entries : List (String × List Char)} {text : List Char}
    (members : Entries entries text) (written : WrittenIn settings entries) {names : List String}
    (distinct : (names ++ entries.map Prod.fst).Nodup) (rest : List Char) :
    (readMember (.among settings names) (skipBlanks (text ++ '\x7d' :: rest))).andThen
        readMoreMembers =
      .ok (.among settings (names ++ entries.map Prod.fst), rest) := by
  induction members generalizing names with
  | @one key name value text spelled valid member =>
      obtain ⟨blanks, behind, read⟩ := readMember_valid bounded spelled valid member
        (written _ List.mem_cons_self)
      have new : key ∉ names := fun old =>
        (List.nodup_append.mp distinct).2.2 key old key List.mem_cons_self rfl
      rw [read _ _ _ (by decide) new, Reading.andThen, readMoreMembers_eq,
        skipBlanks_append behind]
      rfl
  | @more key name value text others entries spelled valid member more ih =>
      obtain ⟨blanks, behind, read⟩ := readMember_valid bounded spelled valid member
        (written _ List.mem_cons_self)
      obtain ⟨tail, opens⟩ := entries_open more ('\x7d' :: rest)
      have same : names ++ ((key, value) :: entries).map Prod.fst =
          (names ++ [key]) ++ entries.map Prod.fst := by simp
      have new : key ∉ names := fun old =>
        (List.nodup_append.mp distinct).2.2 key old key List.mem_cons_self rfl
      rw [same] at distinct ⊢
      rw [List.append_assoc, List.cons_append, read _ _ _ (by decide) new, Reading.andThen,
        readMoreMembers_comma _ behind opens]
      exact ih (fun entry old => written entry (List.mem_cons_of_mem _ old)) distinct

theorem readMembers_filled {entries : List (String × List Char)} {text : List Char}
    (members : Entries entries text) (written : WrittenIn settings entries)
    (distinct : (entries.map Prod.fst).Nodup) (rest : List Char) :
    readMembers (text ++ '\x7d' :: rest) = .ok (.among settings (entries.map Prod.fst), rest) := by
  obtain ⟨tail, opens⟩ := entries_open members ('\x7d' :: rest)
  have read := @readMembers_entries settings bounded entries text members written [] distinct rest
  rw [opens] at read
  rw [readMembers, opens]
  exact read

/-! ## Texts -/

theorem readText_object {entries : List (String × List Char)} {text : List Char}
    (object : IsObject entries text) (distinct : (entries.map Prod.fst).Nodup)
    (written : WrittenIn settings entries) :
    ∃ blanks, Blanks blanks ∧
      readText text = .ok (settings.keep (entries.map Prod.fst), blanks) := by
  cases object with
  | empty inside padded =>
      obtain ⟨before, behind⟩ := padded
      refine ⟨_, behind, ?_⟩
      simp only [List.append_assoc, List.cons_append, List.nil_append]
      rw [readText_opened before, readMembers_empty inside]
      rfl
  | filled members padded =>
      obtain ⟨before, behind⟩ := padded
      refine ⟨_, behind, ?_⟩
      simp only [List.append_assoc, List.cons_append, List.nil_append]
      rw [readText_opened before, readMembers_filled bounded members written distinct,
        ← Given.settings_among]
      rfl

theorem ofText_object {entries : List (String × List Char)} {text : String}
    (object : IsObject entries text.toList) (distinct : (entries.map Prod.fst).Nodup)
    (written : WrittenIn settings entries) :
    ofText text = .ok (settings.keep (entries.map Prod.fst)) := by
  obtain ⟨blanks, behind, read⟩ := readText_object bounded object distinct written
  have nothing : skipBlanks blanks = [] := by
    rw [← List.append_nil blanks, skipBlanks_append behind]
    rfl
  rw [ofText, read, Json.finish]
  simp only [nothing]

end

def saved (settings : Settings) : List (String × List Char) :=
  [(Field.maxDepth.name, (toString settings.maxDepth).toList),
    (Field.escaping.name, '"' :: (settings.escaping.name.toList ++ ['"']))]

theorem spells_name (escaping : Escaping) :
    Spells escaping.name.toList escaping.name.toList := by
  cases escaping with
  | verbatim => exact Json.spells_plain (by decide)
  | doubled => exact Json.spells_plain (by decide)

theorem writtenIn_saved (settings : Settings) : WrittenIn settings settings.saved := by
  intro entry member field named
  simp only [saved, List.mem_cons, List.not_mem_nil, or_false] at member
  rcases member with rfl | rfl
  · cases (Field.eq_of_name_eq named : Field.maxDepth = field)
    exact .maxDepth
  · cases (Field.eq_of_name_eq named : Field.escaping = field)
    exact .escaping (spells_name settings.escaping)

theorem toList_text (settings : Settings) :
    settings.text.toList =
      '\x7b' :: (('"' :: (Field.maxDepth.name.toList ++ ['"']) ++ ':' ::
        (toString settings.maxDepth).toList ++ ',' ::
          ('"' :: (Field.escaping.name.toList ++ ['"']) ++ ':' ::
            '"' :: (settings.escaping.name.toList ++ ['"']))) ++ ['\x7d']) := by
  -- No equation of `text` is used: with its long literals, one takes seconds to generate.
  delta text
  simp [Field.name]

theorem isObject_text (settings : Settings) : IsObject settings.saved settings.text.toList := by
  have plain (field : Field) : Spells field.name.toList field.name.toList := by
    cases field with
    | maxDepth => exact Json.spells_plain (by decide)
    | escaping => exact Json.spells_plain (by decide)
  have number : Conforms .value (toString settings.maxDepth).toList := by
    rw [toList_toString]
    exact .scalar (.number (Json.isNumber_of_isWhole
      (Json.Numeral.natural?_eq_some_iff.mp (Json.Numeral.natural?_toDigits _)).1))
  have string := Conforms.scalar (.string (spells_name settings.escaping).isBody)
  rw [toList_text]
  refine .filled (.more (plain _) number ?_ (.one (plain _) string ?_)) (Json.padded_self _)
  · exact .colon (Json.padded_self _) (Json.padded_self _)
  · exact .colon (Json.padded_self _) (Json.padded_self _)

theorem nodup_saved (settings : Settings) : (settings.saved.map Prod.fst).Nodup := by
  change [Field.maxDepth.name, Field.escaping.name].Nodup
  decide

theorem keep_saved (settings : Settings) :
    settings.keep (settings.saved.map Prod.fst) = settings := rfl

/--
The settings in a file are those of the object that it holds: in whatever order, among
whatever else, and however spelled.  What settings are saved as is such an object.
-/
theorem load_of_isObject {settings : Settings} (bounded : settings.maxDepth < Word.bound) :
    (CommandLine.Stored.ofBytes settings.text.toUTF8).settings = .ok settings ∧
      ∀ (entries : List (String × List Char)) (text : String),
        IsObject entries text.toList → (entries.map Prod.fst).Nodup →
          settings.WrittenIn entries →
            (CommandLine.Stored.ofBytes text.toUTF8).settings =
              .ok (settings.keep (entries.map Prod.fst)) := by
  have loaded (entries : List (String × List Char)) (text : String)
      (object : IsObject entries text.toList) (distinct : (entries.map Prod.fst).Nodup)
      (written : settings.WrittenIn entries) :
      (CommandLine.Stored.ofBytes text.toUTF8).settings =
        .ok (settings.keep (entries.map Prod.fst)) := by
    rw [CommandLine.Stored.ofBytes_toUTF8]
    exact ofText_object bounded object distinct written
  refine ⟨?_, loaded⟩
  rw [loaded _ _ (isObject_text settings) (nodup_saved settings) (writtenIn_saved settings),
    keep_saved]

private def greatest : Settings :=
  { maxDepth := 18446744073709551615, escaping := .doubled }

private def unknown : List Char :=
  "[\x7b\"max_depth\":-1.5e+3\x7d,\"\\ud800\"]".toList

private theorem conforms_unknown : Conforms .value unknown := by
  have number : Json.IsNumber ['-', '1', '.', '5', 'e', '+', '3'] :=
    @Json.IsNumber.parts ['-'] ['1'] ['.', '5'] ['e', '+', '3'] (by decide) (.inr (by decide))
      (.point (by decide))
      (@Json.IsExponent.marked 'e' ['+'] ['3'] (by decide) (by decide) (by decide))
  have zero : Json.HexDigit '0' 0 := .inl (by decide)
  have half : Json.IsBody ['\\', 'u', 'd', '8', '0', '0'] :=
    .unit (.digits (.inl (by decide : ('d', 13) ∈ _)) (.inl (by decide : ('8', 8) ∈ _))
      zero zero) .nil
  have name : Json.IsBody "max_depth".toList := (Json.spells_plain (by decide)).isBody
  have text : unknown =
      '[' :: (('\x7b' :: (('"' :: ("max_depth".toList ++ ['"']) ++ ':' ::
        ['-', '1', '.', '5', 'e', '+', '3']) ++ ['\x7d']) ++ ',' ::
          '"' :: (['\\', 'u', 'd', '8', '0', '0'] ++ ['"'])) ++ [']']) := by decide
  rw [text]
  refine .array (.items (.object (.member name (.scalar (.number number)) ?_))
    (Json.padded_self _) (.item (.scalar (.string half)) (Json.padded_self _)))
  exact .colon (Json.padded_self _) (Json.padded_self _)

private def excerpt : String :=
  "\x7b\"x\":" ++ String.ofList unknown ++
    ",\n\"\\u006dax_depth\" : 18446744073709551615 \x7d"

private def excerptEntries : List (String × List Char) :=
  [("x", unknown), ("max_depth", "18446744073709551615".toList)]

private theorem isObject_excerpt : IsObject excerptEntries excerpt.toList := by
  have number : Conforms .value "18446744073709551615".toList :=
    .scalar (.number (Json.isNumber_of_isWhole (.inr (by decide))))
  have zero : Json.HexDigit '0' 0 := .inl (by decide)
  have unit : Json.HexUnit ['0', '0', '6', 'd'] 'm'.toNat :=
    .digits zero zero (.inl (by decide : ('6', 6) ∈ _)) (.inl (by decide : ('d', 13) ∈ _))
  have name : Spells "max_depth".toList
      ('\\' :: 'u' :: (['0', '0', '6', 'd'] ++ "ax_depth".toList)) := by
    have letters : "max_depth".toList = 'm' :: "ax_depth".toList := by decide
    rw [letters]
    exact .unit unit (Json.spells_plain (by decide))
  have text : excerpt.toList =
      '\x7b' :: (('"' :: ("x".toList ++ ['"']) ++ ':' :: unknown ++ ',' ::
        (['\n'] ++ ('"' :: ('\\' :: 'u' :: (['0', '0', '6', 'd'] ++ "ax_depth".toList) ++
          ['"']) ++ [' ']) ++ ':' ::
            ([' '] ++ ("18446744073709551615".toList ++ [' '])))) ++ ['\x7d']) := by decide
  have blank : Blanks [' '] := by decide
  rw [text]
  refine .filled (.more (Json.spells_plain (by decide)) conforms_unknown ?_ (.one name number ?_))
    (Json.padded_self _)
  · exact .colon (Json.padded_self _) (Json.padded_self _)
  · exact .colon (.blanks (by decide) blank) (.blanks blank blank)

private theorem writtenIn_excerpt : greatest.WrittenIn excerptEntries := by
  intro entry member field named
  simp only [excerptEntries, List.mem_cons, List.not_mem_nil, or_false] at member
  rcases member with rfl | rfl
  · cases field with
    | maxDepth => exact absurd named (by decide)
    | escaping => exact absurd named (by decide)
  · cases (Field.eq_of_name_eq named : Field.maxDepth = field)
    have digits : "18446744073709551615".toList = (toString 18446744073709551615).toList := by
      decide
    rw [digits]
    exact .maxDepth

theorem load_of_isObject_of_excerpt :
    greatest.maxDepth < Word.bound ∧ IsObject excerptEntries excerpt.toList ∧
      (excerptEntries.map Prod.fst).Nodup ∧ greatest.WrittenIn excerptEntries ∧
      (CommandLine.Stored.ofBytes excerpt.toUTF8).settings =
        .ok { maxDepth := 18446744073709551615 } := by
  have bounded : greatest.maxDepth < Word.bound := by decide
  have distinct : (excerptEntries.map Prod.fst).Nodup := by decide
  exact ⟨bounded, isObject_excerpt, distinct, writtenIn_excerpt,
    (load_of_isObject bounded).2 _ _ isObject_excerpt distinct writtenIn_excerpt⟩

end QueryDoc.Settings
