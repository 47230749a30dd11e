import QueryDoc.Json.Reader
import QueryDoc.Proofs.Json.Strings

/-!
# Line ends in JSON text

Between the tokens of JSON text a line may end with or without a carriage return,
and inside them no line can end at all.  So it is for a value as if it had never
had carriage returns before its line feeds, and one more line feed behind it
changes nothing.

Main statement: `Relined.read_toOption`.
-/

namespace QueryDoc.Json

/-- The second text is the first without some carriage returns before line feeds. -/
inductive Relined : List Char → List Char → Prop
  | nil : Relined [] []
  | ending : Relined [] ['\n']
  | keep (c : Char) {first second : List Char} (rest : Relined first second) :
      Relined (c :: first) (c :: second)
  | drop {first second : List Char} (rest : Relined first ('\n' :: second)) :
      Relined ('\r' :: first) ('\n' :: second)

inductive AtLineEnd : List Char → Prop
  | nil : AtLineEnd []
  | feed (rest : List Char) : AtLineEnd ('\n' :: rest)
  | carriage (rest : List Char) : AtLineEnd ('\r' :: rest)

namespace Relined

variable {first second : List Char}

theorem head (same : Relined first second) :
    (AtLineEnd first ∧ AtLineEnd second) ∨
      ∃ c left right, first = c :: left ∧ second = c :: right ∧ Relined left right := by
  cases same with
  | nil => exact .inl ⟨.nil, .nil⟩
  | ending => exact .inl ⟨.nil, .feed _⟩
  | drop rest => exact .inl ⟨.carriage _, .feed _⟩
  | keep c rest => exact .inr ⟨c, _, _, rfl, rfl, rest⟩

theorem cons_left {c : Char} (other : c ≠ '\r') (same : Relined (c :: first) second) :
    ∃ right, second = c :: right ∧ Relined first right := by
  cases same with
  | keep _ rest => exact ⟨_, rfl, rest⟩
  | drop rest => exact (other rfl).elim

theorem append_left (front : List Char) (plain : ∀ c ∈ front, c ≠ '\r')
    (same : Relined (front ++ first) second) :
    ∃ right, second = front ++ right ∧ Relined first right := by
  induction front generalizing second with
  | nil => exact ⟨second, rfl, same⟩
  | cons c front ih =>
      rw [List.forall_mem_cons] at plain
      obtain ⟨_, rfl, behind⟩ := cons_left plain.1 same
      obtain ⟨right, rfl, rest⟩ := ih plain.2 behind
      exact ⟨right, rfl, rest⟩

theorem cons_right {c : Char} (other : c ≠ '\n') (same : Relined first (c :: second)) :
    ∃ left, first = c :: left ∧ Relined left second := by
  cases same with
  | ending => exact (other rfl).elim
  | keep _ rest => exact ⟨_, rfl, rest⟩
  | drop rest => exact (other rfl).elim

theorem append_right (front : List Char) (plain : ∀ c ∈ front, c ≠ '\n')
    (same : Relined first (front ++ second)) :
    ∃ left, first = front ++ left ∧ Relined left second := by
  induction front generalizing first with
  | nil => exact ⟨first, rfl, same⟩
  | cons c front ih =>
      rw [List.forall_mem_cons] at plain
      obtain ⟨_, rfl, behind⟩ := cons_right plain.1 same
      obtain ⟨left, rfl, rest⟩ := ih plain.2 behind
      exact ⟨left, rfl, rest⟩

theorem dropWhile {p : Char → Bool} (feed : p '\n' = p '\r')
    (same : Relined first second) :
    Relined (first.dropWhile p) (second.dropWhile p) := by
  induction same with
  | nil => exact .nil
  | ending =>
      cases ends : p '\n' <;> simp [ends, Relined.nil, Relined.ending]
  | keep c rest ih =>
      cases kept : p c with
      | true => simpa [kept] using ih
      | false => simpa [kept] using rest.keep c
  | drop rest ih =>
      cases ends : p '\n' with
      | true =>
          have carriage : p '\r' = true := by rw [← feed, ends]
          simpa [ends, carriage] using ih
      | false =>
          have carriage : p '\r' = false := by rw [← feed, ends]
          simpa [ends, carriage] using rest.drop

theorem skipBlanks (same : Relined first second) :
    (Json.skipBlanks first = [] ∧ Json.skipBlanks second = []) ∨
      ∃ c left right, Json.skipBlanks first = c :: left ∧
        Json.skipBlanks second = c :: right ∧ Relined left right := by
  have behind : Relined (Json.skipBlanks first) (Json.skipBlanks second) :=
    same.dropWhile rfl
  have bare (text : List Char) (ended : AtLineEnd (Json.skipBlanks text)) :
      Json.skipBlanks text = [] := by
    cases rest : Json.skipBlanks text with
    | nil => rfl
    | cons c others =>
        have dark : isBlank c = false := by
          have first := List.head?_dropWhile_not isBlank text
          rw [Json.skipBlanks] at rest
          simpa [rest] using first
        rw [rest] at ended
        cases ended <;> contradiction
  rcases behind.head with ⟨firstEnd, secondEnd⟩ | ⟨c, left, right, rest⟩
  · exact .inl ⟨bare first firstEnd, bare second secondEnd⟩
  · exact .inr ⟨c, left, right, rest⟩

end Relined

/-! ## Readings that agree -/

/-- Both fail, or both give the same value and go on alike. -/
inductive Agrees {κ α : Type} : Reading κ α → Reading κ α → Prop
  | error (first second : Fault κ) : Agrees (.error first) (.error second)
  | ok (value : α) {first second : List Char} (rest : Relined first second) :
      Agrees (.ok (value, first)) (.ok (value, second))

namespace Agrees

variable {κ α β : Type} {first second : Reading κ α}

theorem of_failures (firstFails : ∃ fault, first = .error fault)
    (secondFails : ∃ fault, second = .error fault) : Agrees first second := by
  obtain ⟨fault, rfl⟩ := firstFails
  obtain ⟨other, rfl⟩ := secondFails
  exact .error fault other

theorem of_ok
    (forward : ∀ value left, first = .ok (value, left) →
      ∃ right, second = .ok (value, right) ∧ Relined left right)
    (backward : ∀ value right, second = .ok (value, right) →
      ∃ left, first = .ok (value, left)) : Agrees first second := by
  match first, second with
  | .ok (value, left), _ =>
      obtain ⟨right, rfl, rest⟩ := forward value left rfl
      exact .ok value rest
  | .error fault, .error other => exact .error fault other
  | .error fault, .ok (value, right) =>
      obtain ⟨left, impossible⟩ := backward value right rfl
      cases impossible

theorem mapValue (agree : Agrees first second) (f : α → β) :
    Agrees (first.mapValue f) (second.mapValue f) := by
  cases agree with
  | error fault other => exact .error fault other
  | ok value rest => exact .ok (f value) rest

theorem andThen {next : α → List Char → Reading κ β} (agree : Agrees first second)
    (behind : ∀ value left right, first = .ok (value, left) → Relined left right →
      Agrees (next value left) (next value right)) :
    Agrees (first.andThen next) (second.andThen next) := by
  cases agree with
  | error fault other => exact .error fault other
  | ok value rest => exact behind value _ _ rfl rest

end Agrees

/-- Of a reader that fails at the ends of lines, only equal characters need a look. -/
theorem Relined.agrees_of_head {κ α : Type} {read : List Char → Reading κ α}
    (fails : ∀ text, AtLineEnd text → ∃ fault, read text = .error fault)
    {first second : List Char} (same : Relined first second)
    (equal : ∀ c left right, first = c :: left → Relined left right →
      Agrees (read (c :: left)) (read (c :: right))) : Agrees (read first) (read second) := by
  rcases same.head with ⟨firstEnd, secondEnd⟩ | ⟨c, left, right, rfl, rfl, rest⟩
  · exact .of_failures (fails first firstEnd) (fails second secondEnd)
  · exact equal c left right rfl rest

/-! ## Words -/

theorem Relined.word {α : Type} (value : α) {letters : List Char}
    (plain : ∀ letter ∈ letters, letter ≠ '\n' ∧ letter ≠ '\r') {first second : List Char}
    (same : Relined first second) :
    Agrees (word value letters first) (word value letters second) := by
  induction letters generalizing first second with
  | nil => exact .ok value same
  | cons letter letters ih =>
      rw [List.forall_mem_cons] at plain
      obtain ⟨⟨noFeed, noCarriage⟩, others⟩ := plain
      refine same.agrees_of_head (fun text ended => ?_) fun c left right _ rest => ?_
      · cases ended with
        | nil => exact ⟨_, rfl⟩
        | feed rest => exact ⟨_, if_neg noFeed.symm⟩
        | carriage rest => exact ⟨_, if_neg noCarriage.symm⟩
      · rw [Json.word, Json.word]
        split
        · exact ih others rest
        · exact .error _ _

/-! ## Strings -/

namespace Relined

variable {first second : List Char}

theorem hexQuad (same : Relined first second) :
    Agrees (Quoted.hexQuad first) (Quoted.hexQuad second) := by
  refine .of_ok (fun unit left success => ?_) (fun unit right success => ?_)
  · obtain ⟨digits, four, number, rfl⟩ := Quoted.hexQuad_eq_ok_iff.mp success
    obtain ⟨right, rfl, rest⟩ := same.append_left digits fun c member =>
      (Quoted.plain_of_hexNumber? number c member).2.2
    exact ⟨right, Quoted.hexQuad_eq_ok_iff.mpr ⟨digits, four, number, rfl⟩, rest⟩
  · obtain ⟨digits, four, number, rfl⟩ := Quoted.hexQuad_eq_ok_iff.mp success
    obtain ⟨left, rfl, rest⟩ := same.append_right digits fun c member =>
      (Quoted.plain_of_hexNumber? number c member).2.1
    exact ⟨left, Quoted.hexQuad_eq_ok_iff.mpr ⟨digits, four, number, rfl⟩⟩

theorem lowSurrogate (high : Nat) (same : Relined first second) :
    Agrees (Quoted.lowSurrogate high first) (Quoted.lowSurrogate high second) := by
  have bare {text : List Char} (other : ∀ rest, text ≠ '\\' :: 'u' :: rest) :
      ∃ fault, Quoted.lowSurrogate high text = .error fault := by
    unfold Quoted.lowSurrogate
    split
    · exact ⟨_, rfl⟩
    · exact ⟨_, rfl⟩
    · exact (other _ rfl).elim
    · exact ⟨_, rfl⟩
    · exact ⟨_, rfl⟩
  by_cases pair : ∃ left, first = '\\' :: 'u' :: left
  · obtain ⟨left, rfl⟩ := pair
    obtain ⟨right, rfl, rest⟩ := same.append_left ['\\', 'u'] (by simp)
    refine rest.hexQuad.andThen fun low left right _ rest => ?_
    split
    · exact .ok _ rest
    · exact .error _ _
  · have other : ∀ right, second ≠ '\\' :: 'u' :: right := by
      rintro right rfl
      obtain ⟨left, rfl, -⟩ := same.append_right ['\\', 'u'] (by simp)
      exact pair ⟨left, rfl⟩
    exact .of_failures (bare (not_exists.mp pair)) (bare other)

theorem unicode (same : Relined first second) :
    Agrees (Quoted.unicode first) (Quoted.unicode second) := by
  refine same.hexQuad.andThen fun unit left right _ rest => ?_
  split
  · exact .error _ _
  · split
    · exact rest.lowSurrogate unit
    · exact .ok _ rest

theorem escape (same : Relined first second) :
    Agrees (Quoted.escape first) (Quoted.escape second) := by
  refine same.agrees_of_head (fun text ended => ?_) fun c left right _ rest => ?_
  · cases ended <;> exact ⟨_, rfl⟩
  · by_cases letter : c = 'u'
    · subst letter
      exact rest.unicode
    · rw [Quoted.escape.eq_3 _ _ letter, Quoted.escape.eq_3 _ _ letter]
      split
      · exact .ok _ rest
      · exact .error _ _

theorem quoted (same : Relined first second) :
    Agrees (Quoted.read first) (Quoted.read second) := by
  induction size : first.length using Nat.strongRecOn generalizing first second with
  | _ size ih =>
      subst size
      refine same.agrees_of_head (fun text ended => ?_) fun c left right head rest => ?_
      · cases ended with
        | nil => exact ⟨_, Quoted.read.eq_1⟩
        | feed text => exact ⟨_, Quoted.read.eq_4 _ _ (by decide) (by decide)⟩
        | carriage text => exact ⟨_, Quoted.read.eq_4 _ _ (by decide) (by decide)⟩
      · have shorter : left.length < first.length := by simp [head]
        by_cases quote : c = '"'
        · subst quote
          rw [Quoted.read, Quoted.read]
          exact .ok _ rest
        · by_cases backslash : c = '\\'
          · subst backslash
            rw [Quoted.read_escape, Quoted.read_escape]
            refine rest.escape.andThen fun c after _ success rest => ?_
            have := Quoted.escape_consumes left c after success
            exact (ih after.length (by omega) rest rfl).mapValue _
          · rw [Quoted.read.eq_4 _ _ quote backslash, Quoted.read.eq_4 _ _ quote backslash]
            split
            · exact .error _ _
            · exact (ih left.length shorter rest rfl).mapValue _

end Relined

/-! ## Numbers -/

namespace Numeral

theorem gatherExponent_relined {first second : List Char} (same : Relined first second)
    (exponent : Nat) :
    (gatherExponent exponent first).1 = (gatherExponent exponent second).1 ∧
      Relined (gatherExponent exponent first).2 (gatherExponent exponent second).2 := by
  induction same generalizing exponent with
  | nil => exact ⟨rfl, .nil⟩
  | ending => exact ⟨rfl, .ending⟩
  | drop rest => exact ⟨rfl, rest.drop⟩
  | keep c rest ih =>
      rw [gatherExponent, gatherExponent]
      split
      · dsimp only
        split
        · exact ih _
        · exact ⟨rfl, rest⟩
      · exact ⟨rfl, rest.keep c⟩

theorem exponentSign_relined {first second : List Char} (same : Relined first second) :
    (exponentSign first).1 = (exponentSign second).1 ∧
      Relined (exponentSign first).2 (exponentSign second).2 := by
  have bare {text : List Char} (ended : AtLineEnd text) : exponentSign text = (false, text) := by
    cases ended <;> rfl
  rcases same.head with ⟨firstEnd, secondEnd⟩ | ⟨c, left, right, rfl, rfl, rest⟩
  · rw [bare firstEnd, bare secondEnd]
    exact ⟨rfl, same⟩
  · by_cases minus : c = '-'
    · subst minus
      exact ⟨rfl, rest⟩
    · by_cases plus : c = '+'
      · subst plus
        exact ⟨rfl, rest⟩
      · rw [exponentSign.eq_3 _ (by simpa using minus) (by simpa using plus),
          exponentSign.eq_3 _ (by simpa using minus) (by simpa using plus)]
        exact ⟨rfl, same⟩

end Numeral

namespace Relined

variable {first second : List Char}

theorem double (negative : Bool) (gathered : Numeral.Gathered)
    (same : Relined first second) :
    Agrees (Numeral.double negative gathered first)
      (Numeral.double negative gathered second) := by
  unfold Numeral.double
  split
  · exact .ok _ same
  · exact .error _ _

theorem readExponent (negative : Bool) (gathered : Numeral.Gathered)
    (same : Relined first second) :
    Agrees (Numeral.readExponent negative gathered first)
      (Numeral.readExponent negative gathered second) := by
  obtain ⟨below, behind⟩ := Numeral.exponentSign_relined same
  rw [Numeral.readExponent, Numeral.readExponent, ← below]
  generalize (Numeral.exponentSign first).1 = below at *
  generalize (Numeral.exponentSign first).2 = first at *
  generalize (Numeral.exponentSign second).2 = second at *
  rcases behind.head with ⟨firstEnd, secondEnd⟩ | ⟨c, left, right, rfl, rfl, rest⟩
  · cases firstEnd <;> cases secondEnd <;> exact .error _ _
  · dsimp only
    split
    · obtain ⟨same, after⟩ := Numeral.gatherExponent_relined (rest.keep c) 0
      generalize Numeral.gatherExponent 0 (c :: left) = leftGathered at *
      generalize Numeral.gatherExponent 0 (c :: right) = rightGathered at *
      obtain ⟨exponent, left⟩ := leftGathered
      obtain ⟨_, right⟩ := rightGathered
      dsimp only at same after
      subst same
      cases exponent with
      | some exponent => exact after.double _ _
      | none =>
          dsimp only
          split
          · exact .ok _ (after.dropWhile rfl)
          · exact .error _ _
    · exact .error _ _

theorem takeDigits (same : Relined first second) :
    first.takeWhile Char.isDigit = second.takeWhile Char.isDigit := by
  induction same with
  | nil => rfl
  | ending => rfl
  | drop rest => rfl
  | keep c rest ih =>
      rw [List.takeWhile_cons, List.takeWhile_cons, ih]

theorem readFraction (negative : Bool) (gathered : Numeral.Gathered)
    (same : Relined first second) :
    Agrees (Numeral.readFraction negative gathered first)
      (Numeral.readFraction negative gathered second) := by
  have behind : Relined (first.dropWhile Char.isDigit) (second.dropWhile Char.isDigit) :=
    same.dropWhile rfl
  rw [Numeral.readFraction, Numeral.readFraction, ← same.takeDigits]
  generalize first.dropWhile Char.isDigit = left at *
  generalize second.dropWhile Char.isDigit = right at *
  cases digits : first.takeWhile Char.isDigit with
  | nil => cases left <;> cases right <;> exact .error _ _
  | cons digit digits =>
      rcases behind.head with ⟨firstEnd, secondEnd⟩ | ⟨c, left, right, rfl, rfl, rest⟩
      · cases firstEnd <;> cases secondEnd <;> exact behind.double _ _
      · dsimp only
        split
        · exact rest.readExponent _ _
        · exact behind.double _ _

theorem readTail (negative : Bool) (gathered : Numeral.Gathered)
    (same : Relined first second) :
    Agrees (Numeral.readTail negative gathered first)
      (Numeral.readTail negative gathered second) := by
  have plain : Agrees
      (if gathered.exponent = 0 then
        .ok (Numeral.whole negative gathered.significand, first)
      else
        Numeral.double negative gathered first)
      (if gathered.exponent = 0 then
        .ok (Numeral.whole negative gathered.significand, second)
      else
        Numeral.double negative gathered second) := by
    split
    · exact .ok _ same
    · exact same.double _ _
  rcases same.head with ⟨firstEnd, secondEnd⟩ | ⟨c, left, right, rfl, rfl, rest⟩
  · cases firstEnd <;> cases secondEnd <;> exact plain
  · by_cases point : c = '.'
    · subst point
      exact rest.readFraction _ _
    · by_cases lower : c = 'e'
      · subst lower
        exact rest.readExponent _ _
      · by_cases upper : c = 'E'
        · subst upper
          exact rest.readExponent _ _
        · rw [Numeral.readTail.eq_4, Numeral.readTail.eq_4]
          · exact plain
          all_goals simpa

theorem startsWithDigit (same : Relined first second) :
    Numeral.startsWithDigit first = Numeral.startsWithDigit second := by
  cases same <;> rfl

theorem readUnsigned (negative : Bool) (same : Relined first second) :
    Agrees (Numeral.readUnsigned negative first) (Numeral.readUnsigned negative second) := by
  refine same.agrees_of_head (fun text ended => ?_) fun c left right head rest => ?_
  · cases ended <;> exact ⟨_, rfl⟩
  · by_cases zero : c = '0'
    · subst zero
      rw [Numeral.readUnsigned, Numeral.readUnsigned, rest.startsWithDigit]
      split
      · exact .error _ _
      · exact rest.readTail _ _
    · rw [Numeral.readUnsigned.eq_3 _ _ _ zero, Numeral.readUnsigned.eq_3 _ _ _ zero,
        rest.takeDigits]
      split
      · exact (rest.dropWhile rfl).readTail _ _
      · exact .error _ _

theorem numeral (same : Relined first second) :
    Agrees (Numeral.read first) (Numeral.read second) := by
  refine same.agrees_of_head (fun text ended => ?_) fun c left right head rest => ?_
  · cases ended <;> exact ⟨_, rfl⟩
  · by_cases minus : c = '-'
    · subst minus
      exact rest.readUnsigned true
    · rw [Numeral.read.eq_2 _ (by simpa using minus), Numeral.read.eq_2 _ (by simpa using minus)]
      exact (rest.keep c).readUnsigned false

end Relined

/-! ## Arrays and objects -/

def Reader.IgnoresLineEnds {κ α : Type} (item : Reader κ α) : Prop :=
  ∀ {first second : List Char}, Relined first second →
    Agrees (item.run first) (item.run second)

section

variable {α : Type} {item : Reader Cause α}

/-! ### Behind a comma -/

theorem Relined.unlessBracket {first second : List Char} (same : Relined first second)
    {reading other : Reading Cause (List α)} (agree : Agrees reading other) :
    Agrees
      (match Json.skipBlanks first with
        | ']' :: rest => .error (.next .trailingComma (']' :: rest))
        | _ => reading)
      (match Json.skipBlanks second with
        | ']' :: rest => .error (.next .trailingComma (']' :: rest))
        | _ => other) := by
  rcases same.skipBlanks with ⟨before, after⟩ | ⟨c, left, right, before, after, -⟩
  · rw [before, after]
    exact agree
  · rw [before, after]
    by_cases bracket : c = ']'
    · subst bracket
      exact .error _ _
    · split <;> split <;> simp_all

theorem Relined.unlessBrace {first second : List Char} (same : Relined first second)
    {reading other : Reading Cause (List (String × α))}
    (agree : Relined (Json.skipBlanks first) (Json.skipBlanks second) →
      Agrees reading other) :
    Agrees
      (match Json.skipBlanks first with
        | [] => .error (.next .unfinishedValue [])
        | '\x7d' :: rest => .error (.next .trailingComma ('\x7d' :: rest))
        | _ => reading)
      (match Json.skipBlanks second with
        | [] => .error (.next .unfinishedValue [])
        | '\x7d' :: rest => .error (.next .trailingComma ('\x7d' :: rest))
        | _ => other) := by
  rcases same.skipBlanks with ⟨before, after⟩ | ⟨c, left, right, before, after, rest⟩
  · rw [before, after]
    exact .error _ _
  · rw [before, after] at agree ⊢
    by_cases brace : c = '\x7d'
    · subst brace
      exact .error _ _
    · have both := agree (rest.keep c)
      split <;> split <;> simp_all

namespace Relined

variable {first second : List Char} (ignores : item.IgnoresLineEnds)

include ignores

theorem moreItems (same : Relined first second) :
    Agrees (moreItems item first) (moreItems item second) := by
  induction size : first.length using Nat.strongRecOn generalizing first second with
  | _ size ih =>
      subst size
      rw [moreItems_eq, moreItems_eq]
      rcases same.skipBlanks with ⟨before, after⟩ | ⟨c, left, right, before, after, rest⟩
      · rw [before, after]
        exact .error _ _
      · have shorter := length_skipBlanks_le first
        rw [before, List.length_cons] at shorter
        rw [before, after]
        by_cases bracket : c = ']'
        · subst bracket
          exact .ok _ rest
        · by_cases comma : c = ','
          · subst comma
            refine rest.unlessBracket ((ignores rest).andThen
              fun value left' right' success rest => ?_)
            have := item.shorter success
            exact (ih left'.length (by omega) rest rfl).mapValue _
          · split <;> simp_all
            exact .error _ _

theorem items (same : Relined first second) :
    Agrees (items item first) (items item second) := by
  rcases same.skipBlanks with ⟨before, after⟩ | ⟨c, left, right, before, after, rest⟩
  · rw [Json.items, Json.items, before, after]
    exact .error _ _
  · by_cases bracket : c = ']'
    · subst bracket
      rw [Json.items, Json.items, before, after]
      exact .ok _ rest
    · rw [items_eq_andThen before bracket, items_eq_andThen after bracket]
      exact (ignores (rest.keep c)).andThen fun value left right _ rest =>
        (moreItems ignores rest).mapValue _

theorem member (same : Relined first second) :
    Agrees (member item first) (member item second) := by
  refine same.agrees_of_head (fun text ended => ?_) fun c left right head rest => ?_
  · cases ended <;> exact ⟨_, rfl⟩
  · by_cases quote : c = '"'
    · subst quote
      refine rest.quoted.andThen fun key left right _ rest => ?_
      rcases rest.skipBlanks with ⟨before, after⟩ | ⟨c, left, right, before, after, rest⟩
      · rw [before, after]
        exact .error _ _
      · rw [before, after]
        by_cases colon : c = ':'
        · subst colon
          exact (ignores rest).mapValue _
        · split <;> simp_all
          exact .error _ _
    · rw [Json.member.eq_2 _ _ (by simpa using quote),
        Json.member.eq_2 _ _ (by simpa using quote)]
      exact .error _ _

theorem moreMembers (same : Relined first second) :
    Agrees (moreMembers item first) (moreMembers item second) := by
  induction size : first.length using Nat.strongRecOn generalizing first second with
  | _ size ih =>
      subst size
      rw [moreMembers_eq, moreMembers_eq]
      rcases same.skipBlanks with ⟨before, after⟩ | ⟨c, left, right, before, after, rest⟩
      · rw [before, after]
        exact .error _ _
      · have shorter := length_skipBlanks_le first
        rw [before, List.length_cons] at shorter
        rw [before, after]
        by_cases brace : c = '\x7d'
        · subst brace
          exact .ok _ rest
        · by_cases comma : c = ','
          · subst comma
            have inner := length_skipBlanks_le left
            refine rest.unlessBrace fun rest => (member ignores rest).andThen
              fun value left' right' success rest => ?_
            have := member_consumes item _ value left' success
            exact (ih left'.length (by omega) rest rfl).mapValue _
          · split <;> simp_all
            exact .error _ _

theorem members (same : Relined first second) :
    Agrees (members item first) (members item second) := by
  rcases same.skipBlanks with ⟨before, after⟩ | ⟨c, left, right, before, after, rest⟩
  · rw [Json.members, Json.members, before, after]
    exact .error _ _
  · by_cases brace : c = '\x7d'
    · subst brace
      rw [Json.members, Json.members, before, after]
      exact .ok _ rest
    · rw [members_eq_andThen before brace, members_eq_andThen after brace]
      exact (member ignores (rest.keep c)).andThen fun value left right _ rest =>
        (moreMembers ignores rest).mapValue _

end Relined

end

/-! ## Values -/

theorem Relined.valueOver (item : Option (Reader Cause Json))
    (ignores : ∀ reader ∈ item, reader.IgnoresLineEnds) {first second : List Char}
    (same : Relined first second) :
    Agrees (valueOver item first) (valueOver item second) := by
  rcases same.skipBlanks with ⟨before, after⟩ | ⟨c, left, right, before, after, rest⟩
  · rw [Json.valueOver, Json.valueOver, before, after]
    exact .error _ _
  · by_cases letter : c ∈ ['n', 't', 'f', '"', '[', '\x7b']
    · rw [Json.valueOver, Json.valueOver, before, after]
      simp only [List.mem_cons, List.not_mem_nil, or_false] at letter
      rcases letter with rfl | rfl | rfl | rfl | rfl | rfl
      · exact rest.word _ (by simp)
      · exact rest.word _ (by simp)
      · exact rest.word _ (by simp)
      · exact rest.quoted.mapValue _
      · cases item with
        | none => exact .error _ _
        | some item => exact (rest.items (ignores item rfl)).mapValue _
      · cases item with
        | none => exact .error _ _
        | some item => exact (rest.members (ignores item rfl)).mapValue _
    · rw [valueOver_eq_number before letter, valueOver_eq_number after letter]
      split
      · exact (rest.keep c).numeral.mapValue _
      · exact .error _ _

theorem value_ignoresLineEnds (levels : Nat) : (value levels).IgnoresLineEnds := by
  induction levels with
  | zero => exact Relined.valueOver none (by simp)
  | succ levels ih =>
      refine Relined.valueOver (some (value levels)) ?_
      rintro reader ⟨⟩
      exact ih

theorem Relined.finish {κ α : Type} (trailing : κ) {first second : Reading κ α}
    (agree : Agrees first second) :
    (finish trailing first).toOption = (finish trailing second).toOption := by
  cases agree with
  | error fault other => rfl
  | ok value rest =>
      rw [Json.finish, Json.finish]
      rcases rest.skipBlanks with ⟨before, after⟩ | ⟨c, left, right, before, after, -⟩
      · rw [before, after]
      · rw [before, after]
        rfl

theorem Relined.read_toOption {first second : List Char} (same : Relined first second) :
    (Json.read first).toOption = (Json.read second).toOption :=
  Relined.finish _ (value_ignoresLineEnds maxLevels same)

end QueryDoc.Json
