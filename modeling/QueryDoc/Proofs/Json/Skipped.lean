import QueryDoc.Json.Skip
import QueryDoc.Proofs.Json.Grammar

/-!
# Passing over JSON values

The text of any value is passed over to its end, inside whatever stands open around it: by
induction on the text, with the enclosures free.  A number ends where the next token is none
of its characters, so that what follows a value matters.

Main statement: `Conforms.skip`.
-/

namespace QueryDoc.Json

/-! ## Blanks -/

theorem skipBlanks_append {blanks : List Char} (before : Blanks blanks) (text : List Char) :
    skipBlanks (blanks ++ text) = skipBlanks text :=
  List.dropWhile_append_of_pos before

theorem skipBlanks_of_not_isBlank {c : Char} (token : isBlank c = false) (text : List Char) :
    skipBlanks (c :: text) = c :: text :=
  List.dropWhile_cons_of_neg (by simp [token])

theorem skipBlanks_append_cons {blanks : List Char} (before : Blanks blanks) {c : Char}
    (token : isBlank c = false) (text : List Char) :
    skipBlanks (blanks ++ c :: text) = c :: text := by
  rw [skipBlanks_append before, skipBlanks_of_not_isBlank token]

def Ends (rest : List Char) : Prop :=
  ∀ c ∈ rest.head?, isBlank c = true ∨ c ∈ [',', ']', '\x7d']

theorem ends_of_mem {c : Char} (token : c ∈ [',', ']', '\x7d']) {blanks : List Char}
    (before : Blanks blanks) (rest : List Char) : Ends (blanks ++ c :: rest) := by
  intro first found
  cases blanks with
  | nil =>
      cases found
      exact .inr token
  | cons blank blanks =>
      cases found
      exact .inl (before _ List.mem_cons_self)

theorem Ends.ne {c : Char} {rest : List Char} (ends : Ends (c :: rest)) {other : Char}
    (inside : other.isDigit = true ∨ other ∈ ['.', 'e', 'E']) : c ≠ other := by
  rintro rfl
  have last : c ∈ [' ', '\n', '\t', '\r', ',', ']', '\x7d'] := by
    simpa [isBlank, or_assoc] using ends c rfl
  simp only [List.mem_cons, List.not_mem_nil, or_false] at last
  rcases last with rfl | rfl | rfl | rfl | rfl | rfl | rfl <;> exact absurd inside (by decide)

/-! ## Numbers -/

namespace Skip

open Numeral (startsWithDigit)

theorem startsWithDigit_append {digits : List Char} (some : Decimal.IsDigits digits)
    (rest : List Char) : startsWithDigit (digits ++ rest) = true := by
  cases digits with
  | nil => exact (some.1 rfl).elim
  | cons c digits => exact some.2 c List.mem_cons_self

theorem dropWhile_digits {digits rest : List Char} (all : ∀ c ∈ digits, c.isDigit = true)
    (stop : startsWithDigit rest = false) :
    (digits ++ rest).dropWhile Char.isDigit = rest := by
  rw [List.dropWhile_append_of_pos all]
  cases rest with
  | nil => rfl
  | cons c rest => exact List.dropWhile_cons_of_neg (by simpa [startsWithDigit] using stop)

theorem startsWithDigit_of_ends {rest : List Char} (ends : Ends rest) :
    startsWithDigit rest = false := by
  cases rest with
  | nil => rfl
  | cons c rest => exact Bool.eq_false_iff.mpr fun digit => ends.ne (.inl digit) rfl

theorem startsWithDigit_exponent {text rest : List Char} (valid : IsExponent text)
    (ends : Ends rest) : startsWithDigit (text ++ rest) = false := by
  cases valid with
  | none => exact startsWithDigit_of_ends ends
  | marked known =>
      simp only [List.mem_cons, List.not_mem_nil, or_false] at known
      rcases known with rfl | rfl <;> rfl

theorem ne_sign {text tail : List Char} (digit : startsWithDigit text = true) :
    text ≠ '-' :: tail ∧ text ≠ '+' :: tail := by
  constructor
  · rintro rfl
    exact Bool.false_ne_true digit
  · rintro rfl
    exact Bool.false_ne_true digit

theorem exponentSign_append {sign digits : List Char} (signed : sign ∈ [[], ['+'], ['-']])
    (some : Decimal.IsDigits digits) (rest : List Char) :
    (Numeral.exponentSign (sign ++ (digits ++ rest))).2 = digits ++ rest := by
  simp only [List.mem_cons, List.not_mem_nil, or_false] at signed
  rcases signed with rfl | rfl | rfl
  · have digit := startsWithDigit_append some rest
    rw [List.nil_append, Numeral.exponentSign.eq_def]
    split
    · exact (ne_sign digit).1 ‹_› |>.elim
    · exact (ne_sign digit).2 ‹_› |>.elim
    · rfl
  · rfl
  · rfl

theorem exponentTail_append {text rest : List Char} (valid : IsExponent text)
    (ends : Ends rest) : exponentTail (text ++ rest) = .ok ((), rest) := by
  cases valid with
  | none =>
      rw [List.nil_append, exponentTail.eq_def]
      split
      · exact (ends.ne (.inr (by decide)) rfl).elim
      · exact (ends.ne (.inr (by decide)) rfl).elim
      · rfl
  | @marked mark sign digits known signed some =>
      have marked : exponentTail (mark :: (sign ++ digits) ++ rest) =
          exponent (sign ++ (digits ++ rest)) := by
        rw [List.cons_append, List.append_assoc]
        simp only [List.mem_cons, List.not_mem_nil, or_false] at known
        rcases known with rfl | rfl <;> rfl
      rw [marked, exponent]
      simp only [exponentSign_append signed some, startsWithDigit_append some,
        dropWhile_digits some.2 (startsWithDigit_of_ends ends), if_true]

theorem numeralTail_append {fraction exponent rest : List Char} (fractional : IsFraction fraction)
    (exponential : IsExponent exponent) (ends : Ends rest) :
    numeralTail (fraction ++ (exponent ++ rest)) = .ok ((), rest) := by
  cases fractional with
  | none =>
      rw [List.nil_append, numeralTail.eq_def]
      split
      · rename_i text same
        cases exponential with
        | none =>
            rw [List.nil_append] at same
            rw [same] at ends
            exact (ends.ne (.inr (by decide)) rfl).elim
        | marked known =>
            cases same
            exact absurd known (by decide)
      · exact exponentTail_append exponential ends
  | point some =>
      rw [List.cons_append, numeralTail, if_pos (startsWithDigit_append some _),
        dropWhile_digits some.2 (startsWithDigit_exponent exponential ends)]
      exact exponentTail_append exponential ends

theorem startsWithDigit_fraction {fraction exponent rest : List Char}
    (fractional : IsFraction fraction) (exponential : IsExponent exponent) (ends : Ends rest) :
    startsWithDigit (fraction ++ (exponent ++ rest)) = false := by
  cases fractional with
  | none =>
      rw [List.nil_append]
      exact startsWithDigit_exponent exponential ends
  | point _ => rfl

theorem unsigned_append {digits tail : List Char} (whole : IsWhole digits)
    (stop : startsWithDigit tail = false) : unsigned (digits ++ tail) = numeralTail tail := by
  rcases whole with rfl | ⟨some, nonzero⟩
  · change (if startsWithDigit tail = true then _ else _) = _
    rw [stop]
    rfl
  · rw [unsigned.eq_def]
    split
    · rename_i same
      cases digits with
      | nil => exact (some.1 rfl).elim
      | cons c digits =>
          cases same
          exact (nonzero rfl).elim
    · rw [if_pos (startsWithDigit_append some _), dropWhile_digits some.2 stop]

theorem isDigits_of_isWhole {digits : List Char} (whole : IsWhole digits) :
    Decimal.IsDigits digits := by
  rcases whole with rfl | ⟨some, -⟩
  · decide
  · exact some

theorem numeral_append {text rest : List Char} (number : IsNumber text) (ends : Ends rest) :
    numeral (text ++ rest) = .ok ((), rest) := by
  obtain ⟨signed, whole, fractional, exponential⟩ := number
  rename_i sign digits fraction exponent
  have passed : unsigned (digits ++ (fraction ++ (exponent ++ rest))) = .ok ((), rest) := by
    rw [unsigned_append whole (startsWithDigit_fraction fractional exponential ends),
      numeralTail_append fractional exponential ends]
  simp only [List.append_assoc]
  simp only [List.mem_cons, List.not_mem_nil, or_false] at signed
  rcases signed with rfl | rfl
  · have digit := startsWithDigit_append (isDigits_of_isWhole whole)
      (fraction ++ (exponent ++ rest))
    rw [List.nil_append, numeral.eq_def]
    split
    · exact (ne_sign digit).1 ‹_› |>.elim
    · exact passed
  · exact passed

/-! ## Strings -/

theorem escape_of_known {letter c : Char} (known : (letter, c) ∈ escapes) (text : List Char) :
    escape (letter :: text) = .ok ((), text) := by
  have each : ∀ pair ∈ escapes, (Quoted.control? pair.1).isSome ∧ pair.1 ≠ 'u' := by decide
  obtain ⟨found, other⟩ := each _ known
  rw [escape.eq_3 _ _ other, if_pos found]

theorem string_escape {text after : List Char} (success : escape text = .ok ((), after)) :
    string ('\\' :: text) = string after := by
  rw [string]
  split
  · rename_i failure
    rw [success] at failure
    cases failure
  · rename_i found
    rw [success] at found
    cases found
    rfl

theorem string_append {text : List Char} (body : IsBody text) (rest : List Char) :
    string (text ++ '"' :: rest) = .ok ((), rest) := by
  induction body with
  | nil => rw [List.nil_append, string]
  | plain plain _ ih =>
      obtain ⟨quote, backslash, printed⟩ := plain
      rw [List.cons_append, string.eq_4 _ _ quote backslash, if_neg (by omega), ih]
  | escape known _ ih =>
      rw [List.cons_append, List.cons_append, string_escape (escape_of_known known _), ih]
  | @unit number digits text unit _ ih =>
      have passed : escape ('u' :: (digits ++ (text ++ '"' :: rest))) =
          .ok ((), text ++ '"' :: rest) := by
        rw [escape, Quoted.hexQuad_of_hexUnit unit]
        rfl
      rw [List.cons_append, List.cons_append, List.append_assoc, string_escape passed, ih]

/-! ## Values in one piece -/

theorem starts_of_isNumber {text : List Char} (number : IsNumber text) :
    ∃ c tail, text = c :: tail ∧ (c = '-' ∨ c.isDigit = true) := by
  obtain ⟨signed, whole, -, -⟩ := number
  simp only [List.mem_cons, List.not_mem_nil, or_false] at signed
  rcases signed with rfl | rfl
  · obtain ⟨nonempty, digits⟩ := isDigits_of_isWhole whole
    obtain ⟨c, tail, rfl⟩ := List.exists_cons_of_ne_nil nonempty
    exact ⟨c, _, rfl, .inr (digits c List.mem_cons_self)⟩
  · exact ⟨'-', _, rfl, .inl rfl⟩

theorem numeral_opens {c : Char} (first : c = '-' ∨ c.isDigit = true) :
    isBlank c = false ∧ c ∉ ['[', ']', '\x7b'] := by
  have other : c ∉ [' ', '\n', '\t', '\r', '[', ']', '\x7b'] := by
    intro member
    simp only [List.mem_cons, List.not_mem_nil, or_false] at member
    rcases member with rfl | rfl | rfl | rfl | rfl | rfl | rfl <;> exact absurd first (by decide)
  simp_all [isBlank]

theorem scalar_numeral {c : Char} (first : c = '-' ∨ c.isDigit = true) (text : List Char) :
    scalar c text = numeral (c :: text) := by
  rw [scalar.eq_def]
  split
  · exact absurd first (by decide)
  · exact absurd first (by decide)
  · exact absurd first (by decide)
  · exact absurd first (by decide)
  · exact if_pos (by simpa using first)

theorem scalar_append {text : List Char} (valid : IsScalar text) :
    ∃ c tail, text = c :: tail ∧ isBlank c = false ∧ c ∉ ['[', ']', '\x7b'] ∧
      ∀ rest, Ends rest → scalar c (tail ++ rest) = .ok ((), rest) := by
  cases valid with
  | null => exact ⟨'n', _, rfl, by decide, by decide, fun rest _ => rfl⟩
  | true => exact ⟨'t', _, rfl, by decide, by decide, fun rest _ => rfl⟩
  | false => exact ⟨'f', _, rfl, by decide, by decide, fun rest _ => rfl⟩
  | number number =>
      obtain ⟨c, tail, rfl, first⟩ := starts_of_isNumber number
      obtain ⟨token, other⟩ := numeral_opens first
      refine ⟨c, tail, rfl, token, other, fun rest ends => ?_⟩
      rw [scalar_numeral first]
      exact numeral_append number ends
  | string body =>
      refine ⟨'"', _, rfl, by decide, by decide, fun rest _ => ?_⟩
      rw [List.append_assoc]
      exact string_append body rest

/-! ## Keys -/

theorem key_member {name value text : List Char} (body : IsBody name)
    (member : IsMember name value text) :
    ∃ item, Padded value item ∧ ∀ rest, key (text ++ rest) = .ok ((), item ++ rest) := by
  obtain ⟨⟨before, behind⟩, padded⟩ := member
  rename_i item first last
  refine ⟨item, padded, fun rest => ?_⟩
  simp only [List.cons_append, List.append_assoc, List.nil_append]
  rw [key, skipBlanks_append_cons before (by decide)]
  simp only [string_append body, Reading.andThen]
  rw [skipBlanks_append_cons behind (by decide)]
  rfl

/-! ## Values in each other -/

/-- What `value` does, without the proofs that its own matches carry along. -/
theorem value_eq (enclosures : List Enclosure) (text : List Char) :
    value enclosures text =
      match skipBlanks text with
      | [] => .error (.next .unfinishedValue [])
      | '[' :: rest =>
          match skipBlanks rest with
          | [] => .error (.next .unfinishedList [])
          | ']' :: after => afterValue enclosures after
          | _ => value (.list :: enclosures) rest
      | '\x7b' :: rest =>
          match skipBlanks rest with
          | [] => .error (.next .unfinishedObject [])
          | '\x7d' :: after => afterValue enclosures after
          | _ => (key rest).andThen fun _ after => value (.object :: enclosures) after
      | c :: rest => (scalar c rest).andThen fun _ after => afterValue enclosures after := by
  rw [value.eq_def]
  split
  case h_1 found => simp only [found]
  case h_2 rest found =>
    simp only [found]
    split <;> simp only [*]
  case h_3 rest found =>
    simp only [found]
    split
    case h_3 =>
      cases key rest <;> simp only [*] <;> rfl
    all_goals simp only [*]
  case h_4 c rest bracket brace found =>
    simp only [found]
    cases scalar c rest <;> rfl

theorem afterValue_list (outer : List Enclosure) (text : List Char) :
    afterValue (.list :: outer) text =
      match skipBlanks text with
      | [] => .error (.next .unfinishedList [])
      | ']' :: rest => afterValue outer rest
      | ',' :: rest => value (.list :: outer) rest
      | rest => .error (.next .noListSeparator rest) := by
  rw [afterValue.eq_def]
  dsimp only
  split
  case h_4 none bracket comma =>
    split
    · contradiction
    · exact (bracket _ ‹_›).elim
    · exact (comma _ ‹_›).elim
    · rfl
  all_goals simp only [*]

theorem afterValue_object (outer : List Enclosure) (text : List Char) :
    afterValue (.object :: outer) text =
      match skipBlanks text with
      | [] => .error (.next .unfinishedObject [])
      | '\x7d' :: rest => afterValue outer rest
      | ',' :: rest => (key rest).andThen fun _ after => value (.object :: outer) after
      | rest => .error (.next .noObjectSeparator rest) := by
  rw [afterValue.eq_def]
  dsimp only
  split
  case h_3 rest found =>
    simp only [found]
    cases key rest <;> rfl
  case h_4 none brace comma =>
    split
    · contradiction
    · exact (brace _ ‹_›).elim
    · exact (comma _ ‹_›).elim
    · rfl
  all_goals simp only [*]

section

variable (enclosures : List Enclosure)

theorem value_emptyArray {blanks : List Char} (inside : Blanks blanks) (rest : List Char) :
    value enclosures ('[' :: (blanks ++ ']' :: rest)) = afterValue enclosures rest := by
  rw [value_eq, skipBlanks_of_not_isBlank (by decide)]
  simp only [skipBlanks_append inside]
  rfl

theorem value_array {c : Char} {text rest : List Char} (found : skipBlanks text = c :: rest)
    (other : c ≠ ']') :
    value enclosures ('[' :: text) = value (.list :: enclosures) text := by
  rw [value_eq, skipBlanks_of_not_isBlank (by decide)]
  simp only [found]
  split <;> simp_all

theorem value_emptyObject {blanks : List Char} (inside : Blanks blanks) (rest : List Char) :
    value enclosures ('\x7b' :: (blanks ++ '\x7d' :: rest)) = afterValue enclosures rest := by
  rw [value_eq, skipBlanks_of_not_isBlank (by decide)]
  simp only [skipBlanks_append inside]
  rfl

theorem value_object {c : Char} {text rest : List Char} (found : skipBlanks text = c :: rest)
    (other : c ≠ '\x7d') :
    value enclosures ('\x7b' :: text) =
      (key text).andThen fun _ after => value (.object :: enclosures) after := by
  rw [value_eq, skipBlanks_of_not_isBlank (by decide)]
  simp only [found]
  split <;> simp_all

end

theorem value_append {blanks : List Char} (before : Blanks blanks)
    (enclosures : List Enclosure) (text : List Char) :
    value enclosures (blanks ++ text) = value enclosures text := by
  rw [value_eq, value_eq enclosures text, skipBlanks_append before]

end Skip

/-! ## Texts of any form -/

def Form.Skipped : Form → List Char → Prop
  | .value, text => ∀ enclosures rest, Ends rest →
      Skip.value enclosures (text ++ rest) = Skip.afterValue enclosures rest
  | .items, text => ∀ outer rest,
      Skip.value (.list :: outer) (text ++ ']' :: rest) = Skip.afterValue outer rest
  | .members, text => ∀ outer rest,
      ((Skip.key (text ++ '\x7d' :: rest)).andThen fun _ after =>
        Skip.value (.object :: outer) after) = Skip.afterValue outer rest

theorem skipped_scalar {text : List Char} (valid : IsScalar text) : Form.value.Skipped text := by
  intro enclosures rest ends
  obtain ⟨c, tail, rfl, token, other, passed⟩ := Skip.scalar_append valid
  rw [Skip.value_eq, List.cons_append, skipBlanks_of_not_isBlank token]
  split
  · contradiction
  · simp_all
  · simp_all
  · rename_i same
    cases same
    rw [passed rest ends]
    rfl

theorem value_padded {text item : List Char} (skipped : Form.value.Skipped text)
    (padded : Padded text item) :
    ∃ blanks, Blanks blanks ∧ ∀ enclosures c rest, c ∈ [',', ']', '\x7d'] →
      Skip.value enclosures (item ++ c :: rest) =
        Skip.afterValue enclosures (blanks ++ c :: rest) := by
  obtain ⟨before, behind⟩ := padded
  refine ⟨_, behind, fun enclosures c rest token => ?_⟩
  rw [List.append_assoc, List.append_assoc, Skip.value_append before]
  exact skipped enclosures _ (ends_of_mem token behind rest)

theorem value_opens {text : List Char} (valid : Conforms .value text) :
    ∃ c tail, text = c :: tail ∧ isBlank c = false ∧ c ≠ ']' := by
  cases valid with
  | scalar valid =>
      obtain ⟨c, tail, same, token, other, -⟩ := Skip.scalar_append valid
      exact ⟨c, tail, same, token, fun bracket => other (by simp [bracket])⟩
  | emptyArray | array => exact ⟨'[', _, rfl, by decide, by decide⟩
  | emptyObject | object => exact ⟨'\x7b', _, rfl, by decide, by decide⟩

theorem padded_opens {text item : List Char} (valid : Conforms .value text)
    (padded : Padded text item) (rest : List Char) :
    ∃ c tail, skipBlanks (item ++ rest) = c :: tail ∧ c ≠ ']' := by
  obtain ⟨c, tail, rfl, token, other⟩ := value_opens valid
  obtain ⟨before, behind⟩ := padded
  rw [List.append_assoc, skipBlanks_append before]
  exact ⟨c, _, skipBlanks_of_not_isBlank token _, other⟩

theorem items_open {text : List Char} (valid : Conforms .items text) (rest : List Char) :
    ∃ c tail, skipBlanks (text ++ rest) = c :: tail ∧ c ≠ ']' := by
  cases valid with
  | item valid padded => exact padded_opens valid padded rest
  | items valid padded =>
      rw [List.append_assoc]
      exact padded_opens valid padded _

theorem member_opens {name value text : List Char} (member : IsMember name value text)
    (rest : List Char) : ∃ tail, skipBlanks (text ++ rest) = '"' :: tail := by
  obtain ⟨⟨before, -⟩, -⟩ := member
  rw [List.append_assoc, List.append_assoc, skipBlanks_append before]
  exact ⟨_, skipBlanks_of_not_isBlank (by decide) _⟩

theorem members_open {text : List Char} (valid : Conforms .members text) (rest : List Char) :
    ∃ tail, skipBlanks (text ++ rest) = '"' :: tail := by
  cases valid with
  | member _ _ member => exact member_opens member rest
  | members _ _ member =>
      rw [List.append_assoc]
      exact member_opens member _

/-- The induction is on the text; what it stands in is free, since it grows inwards. -/
theorem Conforms.skipped {form : Form} {text : List Char} (valid : Conforms form text) :
    form.Skipped text := by
  induction valid with
  | scalar valid => exact skipped_scalar valid
  | emptyArray blanks =>
      intro enclosures rest _
      rw [List.cons_append, List.append_assoc]
      exact Skip.value_emptyArray enclosures blanks rest
  | array items ih =>
      intro enclosures rest _
      obtain ⟨c, tail, found, other⟩ := items_open items (']' :: rest)
      rw [List.cons_append, List.append_assoc]
      exact (Skip.value_array enclosures found other).trans (ih enclosures rest)
  | emptyObject blanks =>
      intro enclosures rest _
      rw [List.cons_append, List.append_assoc]
      exact Skip.value_emptyObject enclosures blanks rest
  | object members ih =>
      intro enclosures rest _
      obtain ⟨tail, found⟩ := members_open members ('\x7d' :: rest)
      rw [List.cons_append, List.append_assoc]
      exact (Skip.value_object enclosures found (by decide)).trans (ih enclosures rest)
  | item valid padded ih =>
      intro outer rest
      obtain ⟨blanks, behind, passed⟩ := value_padded ih padded
      rw [passed _ _ _ (by decide), Skip.afterValue_list, skipBlanks_append behind]
      rfl
  | items valid padded others ih others_ih =>
      intro outer rest
      obtain ⟨blanks, behind, passed⟩ := value_padded ih padded
      rw [List.append_assoc, List.cons_append, passed _ _ _ (by decide), Skip.afterValue_list,
        skipBlanks_append behind]
      exact others_ih outer rest
  | member body valid member ih =>
      intro outer rest
      obtain ⟨item, padded, named⟩ := Skip.key_member body member
      obtain ⟨blanks, behind, passed⟩ := value_padded ih padded
      rw [named, Reading.andThen, passed _ _ _ (by decide), Skip.afterValue_object,
        skipBlanks_append behind]
      rfl
  | members body valid member others ih others_ih =>
      intro outer rest
      obtain ⟨item, padded, named⟩ := Skip.key_member body member
      obtain ⟨blanks, behind, passed⟩ := value_padded ih padded
      rw [List.append_assoc, List.cons_append, named, Reading.andThen, passed _ _ _ (by decide),
        Skip.afterValue_object, skipBlanks_append behind]
      exact others_ih outer rest

theorem Conforms.skip {text item : List Char} (valid : Conforms .value text)
    (padded : Padded text item) :
    ∃ blanks, Blanks blanks ∧ ∀ c rest, c ∈ [',', ']', '\x7d'] →
      Skip.reader.run (item ++ c :: rest) = .ok ((), blanks ++ c :: rest) := by
  obtain ⟨blanks, behind, passed⟩ := value_padded valid.skipped padded
  refine ⟨blanks, behind, fun c rest token => ?_⟩
  change Skip.value [] _ = _
  rw [passed [] c rest token, Skip.afterValue]

end QueryDoc.Json
