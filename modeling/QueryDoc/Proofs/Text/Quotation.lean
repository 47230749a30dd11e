import QueryDoc.Settings

/-!
# Literals in a text

A text is scanned from left to right.  A quote outside a literal opens one;
inside a literal two quotes are one quote of its content, and a quote alone
closes it.  What is left of the text without its literals is its skeleton.

Main statements: `readLiteral_suffix`, `scans_literal`, `Scans.append`.
-/

namespace QueryDoc

/-! ## Reading a literal -/

def readLiteral (content : List Char) : List Char → Option (List Char × List Char)
  | [] => none
  | '\'' :: '\'' :: text => readLiteral (content ++ ['\'']) text
  | '\'' :: text => some (content, text)
  | c :: text => readLiteral (content ++ [c]) text

theorem readLiteral_close (content : List Char) {rest : List Char}
    (apart : rest.head? ≠ some '\'') :
    readLiteral content ('\'' :: rest) = some (content, rest) := by
  rw [readLiteral]
  rintro text rfl
  exact apart rfl

theorem readLiteral_cons (content : List Char) {c : Char} (noQuote : c ≠ '\'')
    (text : List Char) :
    readLiteral content (c :: text) = readLiteral (content ++ [c]) text := by
  rw [readLiteral]
  · rintro rest rfl
    exact absurd rfl noQuote
  · exact noQuote

theorem readLiteral_suffix (content text : List Char) {rest : List Char}
    (apart : rest.head? ≠ some '\'') :
    readLiteral content (Escaping.doubleQuotes text ++ '\'' :: rest) =
      some (content ++ text, rest) := by
  induction text generalizing content with
  | nil => simpa [Escaping.doubleQuotes] using readLiteral_close content apart
  | cons c text ih =>
      have step := ih (content ++ [c])
      rw [List.append_assoc, List.singleton_append] at step
      by_cases quote : c = '\''
      · subst quote
        rw [← step]
        simp [Escaping.doubleQuotes, readLiteral]
      · rw [← step]
        simp [Escaping.doubleQuotes, quote, readLiteral_cons]

theorem readLiteral_sound {content text body rest : List Char}
    (read : readLiteral content text = some (body, rest)) :
    ∃ more, body = content ++ more ∧
      text = Escaping.doubleQuotes more ++ '\'' :: rest := by
  fun_induction readLiteral content text with
  | case1 content => contradiction
  | case2 content text ih =>
      obtain ⟨more, rfl, rfl⟩ := ih read
      exact ⟨'\'' :: more, by simp, by simp [Escaping.doubleQuotes]⟩
  | case3 content text apart =>
      obtain ⟨rfl, rfl⟩ := Prod.mk.inj (Option.some.inj read)
      exact ⟨[], by simp, by simp [Escaping.doubleQuotes]⟩
  | case4 content c text noDouble noQuote ih =>
      obtain ⟨more, rfl, rfl⟩ := ih read
      have single : c ≠ '\'' := noQuote
      exact ⟨c :: more, by simp, by simp [Escaping.doubleQuotes, single]⟩

/-! ## Scanning a text -/

/-- What a scan finds: the skeleton, with `none` for each literal, and the contents
of the literals. -/
structure Scanned where
  skeleton : List (Option Char)
  literals : List (List Char)

namespace Scanned

instance : Append Scanned :=
  ⟨fun first second =>
    ⟨first.skeleton ++ second.skeleton, first.literals ++ second.literals⟩⟩

def plain (text : List Char) : Scanned :=
  ⟨text.map some, []⟩

def literal (content : List Char) : Scanned :=
  ⟨[none], [content]⟩

theorem append_assoc (first second third : Scanned) :
    first ++ second ++ third = first ++ (second ++ third) := by
  change Scanned.mk _ _ = Scanned.mk _ _
  congr 1 <;> exact List.append_assoc ..

theorem append_nil (scanned : Scanned) : scanned ++ plain [] = scanned := by
  change Scanned.mk _ _ = scanned
  simp [plain]

end Scanned

mutual

def scan : List Char → Option Scanned
  | [] => some (.plain [])
  | '\'' :: text => scanLiteral [] text
  | c :: text => (scan text).map (.plain [c] ++ ·)

def scanLiteral (content : List Char) : List Char → Option Scanned
  | [] => none
  | '\'' :: '\'' :: text => scanLiteral (content ++ ['\'']) text
  | '\'' :: text => (scan text).map (.literal content ++ ·)
  | c :: text => scanLiteral (content ++ [c]) text

end

theorem scan_cons {c : Char} (noQuote : c ≠ '\'') (text : List Char) :
    scan (c :: text) = (scan text).map (.plain [c] ++ ·) := by
  rw [scan]
  exact noQuote

theorem scan_append {text : List Char} (noQuote : '\'' ∉ text) (rest : List Char) :
    scan (text ++ rest) = (scan rest).map (.plain text ++ ·) := by
  induction text with
  | nil => exact (congrFun Option.map_id (scan rest)).symm
  | cons c text ih =>
      rw [List.mem_cons, not_or] at noQuote
      rw [List.cons_append, scan_cons (Ne.symm noQuote.1), ih noQuote.2, Option.map_map]
      rfl

theorem scanLiteral_eq (content text : List Char) :
    scanLiteral content text = (readLiteral content text).bind fun (content, rest) =>
      (scan rest).map (.literal content ++ ·) := by
  fun_induction readLiteral content text with
  | case1 content => rfl
  | case2 content text ih => rw [scanLiteral, ih]
  | case3 content rest apart =>
      rw [scanLiteral]
      · rfl
      · exact apart
  | case4 content c text noDouble noQuote ih =>
      rw [scanLiteral, ih]
      · exact noDouble
      · exact noQuote

/-! ## Texts that may stand anywhere -/

/--
Where no literal is open, the text is scanned by itself, unless a quote comes
right behind it.
-/
def Scans (text : List Char) (scanned : Scanned) : Prop :=
  text.head? ≠ some '\'' ∧ ∀ rest : List Char, rest.head? ≠ some '\'' →
    scan (text ++ rest) = (scan rest).map (scanned ++ ·)

theorem Scans.append {first second : List Char} {one two : Scanned}
    (before : Scans first one) (behind : Scans second two) :
    Scans (first ++ second) (one ++ two) := by
  constructor
  · cases first with
    | nil => exact behind.1
    | cons c first => exact before.1
  · intro rest apart
    have between : (second ++ rest).head? ≠ some '\'' := by
      cases second with
      | nil => exact apart
      | cons c second => exact behind.1
    rw [List.append_assoc, before.2 _ between, behind.2 rest apart, Option.map_map]
    congr 1
    funext scanned
    exact (Scanned.append_assoc one two scanned).symm

theorem scans_plain {text : List Char} (noQuote : '\'' ∉ text) :
    Scans text (.plain text) :=
  ⟨fun quote => noQuote (List.mem_of_head? quote), fun rest _ => scan_append noQuote rest⟩

theorem scans_literal {text : List Char} (noQuote : '\'' ∉ text) (nonempty : text ≠ [])
    (content : List Char) :
    Scans (text ++ '\'' :: Escaping.doubleQuotes content ++ ['\''])
      (.plain text ++ .literal content) := by
  constructor
  · cases text with
    | nil => exact absurd rfl nonempty
    | cons c text => exact (scans_plain noQuote).1
  · intro rest apart
    have inside := readLiteral_suffix [] content apart
    rw [List.append_assoc, List.append_assoc, scan_append noQuote]
    simp only [List.cons_append, List.nil_append, scan, scanLiteral_eq] at inside ⊢
    rw [inside, Option.bind_some, Option.map_map]
    congr 1
    funext scanned
    exact (Scanned.append_assoc _ _ scanned).symm

theorem Scans.scan_eq {text : List Char} {scanned : Scanned} (scans : Scans text scanned) :
    scan text = some scanned := by
  have whole := scans.2 [] (by simp)
  rw [List.append_nil] at whole
  rw [whole, scan, Option.map_some, Scanned.append_nil]

end QueryDoc
