import QueryDoc.CommandLine.Run

/-!
# The blocks of a session

A session is told here without its open block.  Lines are cut at the first that
asks to quit where none but blank lines stand behind the last block; what remains
is split at its blank lines; every piece that is not empty, but for the one behind
the last blank line, is a document of its own.

Main statement: `runSession_eq_answers`.
-/

namespace QueryDoc.Session

/-! ## Lines and blocks -/

def isBlank (line : List Char) : Bool :=
  (Text.trim line).isEmpty

def asksToQuit (line : List Char) : Bool :=
  Text.trim line == quitWord

/-- The lines as they stand corrected, up to the first that a backspace tears. -/
def received (typed : List (List Char)) : List (List Char) :=
  ((typed.map Text.corrected?).takeWhile Option.isSome).filterMap id

/-- A line that asks to quit is heeded at the start and behind a blank line. -/
def untilQuit (previous : List Char) : List (List Char) → List (List Char)
  | [] => []
  | line :: lines =>
      if isBlank previous && asksToQuit line then
        []
      else
        line :: untilQuit line lines

/-- The runs of lines that are not blank, of which each is followed by a blank line. -/
def blocks (lines : List (List Char)) : List (List (List Char)) :=
  (lines.splitOnP isBlank).dropLast.filter (!·.isEmpty)

def answers (settings : Settings) (lines : List (List Char)) : String :=
  String.join ((blocks lines).map fun block => answer settings (document block))

theorem received_cons (line : List Char) (typed : List (List Char)) :
    received (line :: typed) =
      match Text.corrected? line with
      | some corrected => corrected :: received typed
      | none => [] := by
  cases corrected : Text.corrected? line <;> simp [received, corrected]

theorem received_of_not_mem {typed : List (List Char)}
    (plain : ∀ line ∈ typed, Text.backspace ∉ line) : received typed = typed := by
  induction typed with
  | nil => rfl
  | cons line typed ih =>
      rw [List.forall_mem_cons] at plain
      rw [received_cons, Text.corrected?_of_not_mem plain.1, ih plain.2]

theorem isBlank_nil : isBlank [] = true := rfl

section

variable {block : List (List Char)} (whole : ∀ line ∈ block, isBlank line = false)

include whole

theorem blocks_of_open : blocks block = [] := by
  rw [blocks, List.splitOnP_eq_singleton whole]
  rfl

theorem blocks_append_cons {line : List Char} (blank : isBlank line = true)
    (lines : List (List Char)) :
    blocks (block ++ line :: lines) =
      if block = [] then blocks lines else block :: blocks lines := by
  rw [blocks, List.splitOnP_append_cons _ _ blank, List.splitOnP_eq_singleton whole,
    List.dropLast_append_of_ne_nil (List.splitOnP_ne_nil _ _), List.singleton_append,
    List.filter_cons]
  cases block <;> simp [blocks]

end

/-! ## One line -/

theorem Transcript.after_empty (transcript : Transcript) :
    transcript.after "" = transcript := by
  simp [Transcript.after]

def asked (prompts : Bool) (block : List (List Char)) : String :=
  if prompts then prompt block else ""

section

variable {settings : Settings} {prompts : Bool} {block : List (List Char)}
  {line corrected : List Char} (found : Text.corrected? line = some corrected)
  (typed : List (List Char))

include found

theorem run_quit (quits : asksToQuit corrected = true) :
    run settings prompts [] (line :: typed) = ⟨asked prompts [], .quit⟩ := by
  have word : Text.trim corrected = quitWord := eq_of_beq quits
  simp [run, found, word, asked, Transcript.after]

theorem run_keep (written : isBlank corrected = false)
    (stays : block = [] → asksToQuit corrected = false) :
    run settings prompts block (line :: typed) =
      (run settings prompts (block ++ [corrected]) typed).after (asked prompts block) := by
  have other : ¬(block = [] ∧ Text.trim corrected = quitWord) := by
    rintro ⟨none, word⟩
    simpa [asksToQuit, word] using stays none
  have text : Text.trim corrected ≠ [] := by
    simpa [isBlank] using written
  simp [run, found, other, text, asked]

theorem run_skip (blank : isBlank corrected = true) :
    run settings prompts [] (line :: typed) =
      (run settings prompts [] typed).after (asked prompts []) := by
  have text : Text.trim corrected = [] := by
    simpa [isBlank] using blank
  have other : [] ≠ quitWord := by decide
  simp [run, found, text, other, asked]

theorem run_close (blank : isBlank corrected = true) (opened : block ≠ []) :
    run settings prompts block (line :: typed) =
      ((run settings prompts [] typed).after (answer settings (document block))).after
        (asked prompts block) := by
  have text : Text.trim corrected = [] := by
    simpa [isBlank] using blank
  simp [run, found, text, opened, asked]

end

/-! ## All lines -/

def ending (previous : List Char) (typed : List (List Char)) : Ending :=
  if untilQuit previous (received typed) ≠ received typed then
    .quit
  else if (received typed).length < typed.length then
    .torn
  else
    .exhausted

theorem ending_eq_torn_iff {previous : List Char} {typed : List (List Char)} :
    ending previous typed = .torn ↔
      untilQuit previous (received typed) = received typed ∧
        (received typed).length < typed.length := by
  unfold ending
  split
  · simp_all
  · split <;> simp_all

/--
Whatever the open block, the session goes on as if its lines were still to come.
The line before tells whether a block is open: it is blank exactly if none is.
-/
theorem run_eq_answers (settings : Settings) {block : List (List Char)}
    (whole : ∀ line ∈ block, isBlank line = false) {previous : List Char}
    (behind : isBlank previous = block.isEmpty) (typed : List (List Char)) :
    run settings false block typed =
      ⟨answers settings (block ++ untilQuit previous (received typed)),
        ending previous typed⟩ := by
  have silent (block : List (List Char)) : asked false block = "" := rfl
  induction typed generalizing block previous with
  | nil =>
      simp [run, received, untilQuit, answers, blocks_of_open whole, ending]
  | cons line typed ih =>
      cases found : Text.corrected? line with
      | none =>
          simp [run, found, ending, received_cons, untilQuit, answers,
            blocks_of_open whole, Transcript.after_empty]
      | some corrected =>
          cases quits : isBlank previous && asksToQuit corrected with
          | true =>
              rw [Bool.and_eq_true] at quits
              obtain rfl : block = [] := List.isEmpty_iff.mp (by rw [← behind, quits.1])
              simp [run_quit found typed quits.2, ending, received_cons, found, untilQuit,
                quits, silent, answers, blocks]
          | false =>
              have later : ending previous (line :: typed) = ending corrected typed := by
                simp [ending, received_cons, found, untilQuit, quits]
              have lines : untilQuit previous (received (line :: typed)) =
                  corrected :: untilQuit corrected (received typed) := by
                simp [received_cons, found, untilQuit, quits]
              rw [later, lines]
              cases blank : isBlank corrected with
              | false =>
                  have stays : block = [] → asksToQuit corrected = false := by
                    rintro rfl
                    simpa [behind] using quits
                  have wholeStill : ∀ line ∈ block ++ [corrected], isBlank line = false := by
                    simpa [blank, or_imp, forall_and] using whole
                  have rest := @ih _ wholeStill corrected (by simp [blank])
                  rw [run_keep found typed blank stays, silent, Transcript.after_empty, rest,
                    List.append_assoc, List.singleton_append]
              | true =>
                  have rest := @ih [] (by simp) corrected blank
                  rw [answers, blocks_append_cons whole blank]
                  by_cases opened : block = []
                  · subst opened
                    rw [run_skip found typed blank, silent, Transcript.after_empty, rest]
                    rfl
                  · rw [run_close found typed blank opened, silent, Transcript.after_empty,
                      rest, if_neg opened, List.map_cons, String.join_cons]
                    rfl

theorem runSession_text (settings : Settings) (prompts : Bool) (text : String) :
    CommandLine.runSession settings prompts (.text text) =
      { exitCode := if (transcript settings prompts text).ending = .torn then 101 else 0
        output := (transcript settings prompts text).text } := by
  unfold CommandLine.runSession
  dsimp only [CommandLine.Input.readable]
  cases (transcript settings prompts text).ending <;> rfl

/--
The session answers each block of the lines it receives, in order, and a line
without backspaces is received as it was typed.  Its exit code is not zero only
where a backspace tears a line before any line that asks to quit is heeded.
-/
theorem runSession_eq_answers (settings : Settings) (text : String) :
    let typed := Text.lines text.toList
    let lines := untilQuit [] (received typed)
    CommandLine.runSession settings false (.text text) =
        { exitCode :=
            if lines = received typed ∧ (received typed).length < typed.length then 101 else 0
          output := greeting ++ answers settings lines } ∧
      ((∀ line ∈ typed, Text.backspace ∉ line) → received typed = typed) := by
  intro typed lines
  refine ⟨?_, received_of_not_mem⟩
  have session : transcript settings false text =
      ⟨greeting ++ answers settings lines, ending [] typed⟩ := by
    rw [transcript, run_eq_answers settings (by simp) isBlank_nil typed]
    rfl
  rw [runSession_text, session]
  simp only [ending_eq_torn_iff]
  rfl

private def overtyped : String :=
  "\x7b\"from\":\"t\"\x7dx\x08\n\n"

theorem runSession_ne_answers_of_overtyped :
    (CommandLine.runSession {} false (.text overtyped)).output =
        greeting ++ "select *\nfrom t;\n\n" ∧
      greeting ++ answers {} (untilQuit [] (Text.lines overtyped.toList)) =
        greeting ++
          "✗ Document parse error: trailing characters at line 1 column 13\n\n" ∧
      (CommandLine.runSession {} false (.text overtyped)).output ≠
        greeting ++ answers {} (untilQuit [] (Text.lines overtyped.toList)) := by
  refine ⟨?_, ?_, ?_⟩ <;> decide +kernel

end QueryDoc.Session
