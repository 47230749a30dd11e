import Mathlib.Data.List.TakeWhile
import QueryDoc.Proofs.Json.LineEnds
import QueryDoc.Proofs.Session.Blocks

/-!
# One document in a session and in a batch

A document without blank lines that is typed into a session and closed by a blank
line is answered as it is in a batch.  The session compiles another text, in which
every line ends with a bare line feed; only the places of faults in it may differ.

Main statement: `run_interactive_eq_batch`.
-/

namespace QueryDoc.Text

/-! ## Line by line -/

theorem lines_induction {motive : List Char → Prop} (nil : motive [])
    (last : ∀ line, line ≠ [] → '\n' ∉ line → motive line)
    (next : ∀ line text, '\n' ∉ line → motive text → motive (line ++ '\n' :: text))
    (text : List Char) : motive text := by
  induction size : text.length using Nat.strongRecOn generalizing text with
  | _ size ih =>
      subst size
      by_cases feed : '\n' ∈ text
      · obtain ⟨line, rest, rfl, bare⟩ := List.eq_append_cons_of_mem feed
        refine next line rest bare (ih rest.length ?_ rest rfl)
        simp only [List.length_append, List.length_cons]
        omega
      · by_cases empty : text = []
        · rw [empty]
          exact nil
        · exact last text empty feed

theorem linesFrom_append {line : List Char} (bare : '\n' ∉ line) (before text : List Char) :
    linesFrom before (line ++ text) = linesFrom (line.reverse ++ before) text := by
  induction line generalizing before with
  | nil => rfl
  | cons c line ih =>
      rw [List.mem_cons, not_or] at bare
      rw [List.cons_append, linesFrom, if_neg (Ne.symm bare.1), ih bare.2,
        List.reverse_cons, List.append_assoc, List.singleton_append]

theorem lines_line {line : List Char} (bare : '\n' ∉ line) (text : List Char) :
    lines (line ++ '\n' :: text) = withoutReturn line :: lines text := by
  rw [lines, linesFrom_append bare, linesFrom, if_pos rfl, List.append_nil,
    List.reverse_reverse, lines]

theorem lines_last {line : List Char} (written : line ≠ []) (bare : '\n' ∉ line) :
    lines line = [line] := by
  have read := linesFrom_append bare [] []
  rw [List.append_nil, List.append_nil] at read
  rw [lines, read, linesFrom, List.reverse_reverse]
  simpa using written

theorem withoutReturn_cases (line : List Char) :
    (∃ front, line = front ++ ['\r'] ∧ withoutReturn line = front) ∨
      withoutReturn line = line := by
  unfold withoutReturn
  split
  · rename_i rest found
    exact .inl ⟨rest.reverse, by rw [← List.reverse_cons, ← found, List.reverse_reverse], rfl⟩
  · exact .inr rfl

theorem mem_of_mem_withoutReturn {line : List Char} {c : Char}
    (member : c ∈ withoutReturn line) : c ∈ line := by
  rcases withoutReturn_cases line with ⟨front, rfl, kept⟩ | kept
  · rw [kept] at member
    exact List.mem_append_left _ member
  · rwa [kept] at member

theorem trim_append_blank {c : Char} (blank : isBlank c = true) (line : List Char) :
    trim (line ++ [c]) = trim line := by
  rw [trim, trim, List.dropWhile_append]
  split
  · rename_i none
    rw [List.isEmpty_iff.mp none]
    simp [blank]
  · rw [List.reverse_append, List.reverse_singleton, List.singleton_append,
      List.dropWhile_cons_of_pos blank]

theorem trim_withoutReturn (line : List Char) : trim (withoutReturn line) = trim line := by
  rcases withoutReturn_cases line with ⟨front, rfl, kept⟩ | kept
  · rw [kept, trim_append_blank (by decide)]
  · rw [kept]

theorem trim_eq_nil {line : List Char} (blank : ∀ c ∈ line, isBlank c = true) :
    trim line = [] := by
  rw [trim, List.dropWhile_eq_nil_iff.mpr blank]
  rfl

/-! ## Closing the last line -/

def closed (text : List Char) : List Char :=
  if text.getLast?.all (· = '\n') then text else text ++ ['\n']

theorem closed_line (line text : List Char) :
    closed (line ++ '\n' :: text) = line ++ '\n' :: closed text := by
  rw [closed, closed, List.getLast?_append, List.getLast?_cons]
  cases text.getLast? with
  | none => simp
  | some c => by_cases feed : c = '\n' <;> simp [feed]

theorem closed_last {line : List Char} (written : line ≠ []) (bare : '\n' ∉ line) :
    closed line = line ++ ['\n'] := by
  have last : line.getLast written ≠ '\n' := fun feed =>
    bare (feed ▸ List.getLast_mem written)
  simp [closed, List.getLast?_eq_some_getLast written, last]

theorem lines_closed_append (text after : List Char) :
    lines (closed text ++ after) = lines (closed text) ++ lines after := by
  induction text using lines_induction with
  | nil => rfl
  | last line written bare =>
      rw [closed_last written bare, List.append_assoc, List.singleton_append,
        lines_line bare, lines_line bare]
      rfl
  | next line text bare ih =>
      rw [closed_line, List.append_assoc, List.cons_append, lines_line bare,
        lines_line bare, ih, List.cons_append]

theorem map_trim_lines_closed (text : List Char) :
    (lines (closed text)).map trim = (lines text).map trim := by
  induction text using lines_induction with
  | nil => rfl
  | last line written bare =>
      rw [closed_last written bare, lines_line bare, lines_last written bare]
      simp [lines, linesFrom, trim_withoutReturn]
  | next line text bare ih =>
      rw [closed_line, lines_line bare, lines_line bare, List.map_cons, List.map_cons, ih]

theorem mem_of_mem_lines_closed {text line : List Char} {c : Char}
    (listed : line ∈ lines (closed text)) (member : c ∈ line) : c ∈ text := by
  induction text using lines_induction with
  | nil => simp [closed, lines, linesFrom] at listed
  | last last written bare =>
      rw [closed_last written bare, lines_line bare] at listed
      obtain rfl : line = withoutReturn last := by simpa [lines, linesFrom] using listed
      exact mem_of_mem_withoutReturn member
  | next first text bare ih =>
      rw [closed_line, lines_line bare, List.mem_cons] at listed
      rcases listed with rfl | listed
      · exact List.mem_append_left _ (mem_of_mem_withoutReturn member)
      · exact List.mem_append_right _ (List.mem_cons_of_mem _ (ih listed))

end QueryDoc.Text

namespace QueryDoc

/-! ## The two texts -/

theorem Json.Relined.withoutReturn {first second : List Char} (line : List Char)
    (behind : Relined first ('\n' :: second)) :
    Relined (line ++ first) (Text.withoutReturn line ++ '\n' :: second) := by
  have keeps {first second : List Char} (front : List Char) (rest : Relined first second) :
      Relined (front ++ first) (front ++ second) := by
    induction front with
    | nil => exact rest
    | cons c front ih => exact ih.keep c
  rcases Text.withoutReturn_cases line with ⟨front, rfl, kept⟩ | kept
  · rw [kept, List.append_assoc]
    exact keeps front behind.drop
  · rw [kept]
    exact keeps line behind

theorem Session.document_cons (line : List Char) (block : List (List Char)) :
    (document (line :: block)).toList = line ++ '\n' :: (document block).toList := by
  simp [document]

theorem Json.relined_document (text : List Char) :
    Relined text (Session.document (Text.lines (Text.closed text))).toList := by
  induction text using Text.lines_induction with
  | nil => exact .nil
  | last line written bare =>
      rw [Text.closed_last written bare, Text.lines_line bare, Session.document_cons]
      simpa [Text.lines, Text.linesFrom, Session.document] using
        Relined.ending.withoutReturn line
  | next line text bare ih =>
      rw [Text.closed_line, Text.lines_line bare, Session.document_cons]
      exact (ih.keep '\n').withoutReturn line

/-- Where two texts are compiled to different results, no value is read from either. -/
theorem compile_of_relined (settings : Settings) {text other : String}
    (same : Json.Relined text.toList other.toList) :
    compile settings text = compile settings other ∨
      ∃ cause place cause' place',
        compile settings text = .error (.document (.invalidJson cause place)) ∧
          compile settings other = .error (.document (.invalidJson cause' place')) := by
  have agree := same.read_toOption
  simp only [compile, Query.ofText, Query.membersOfText]
  cases first : Json.read text.toList <;> cases second : Json.read other.toList <;>
    rw [first, second] at agree
  · exact .inr ⟨_, _, _, _, rfl, rfl⟩
  · cases agree
  · cases agree
  · rename_i value _
    cases agree
    exact .inl (by cases value <;> rfl)

namespace Session

/-! ## The session -/

def dialog (prompts : Bool) (lines : Nat) (answer : String) : String :=
  if prompts then
    "filter> " ++ String.join (List.replicate lines "   ...> ") ++ answer ++ "filter> "
  else
    answer

theorem run_opened (settings : Settings) (prompts : Bool) {block : List (List Char)}
    (opened : block ≠ []) {lines : List (List Char)}
    (plain : ∀ line ∈ lines, Text.backspace ∉ line)
    (written : ∀ line ∈ lines, isBlank line = false) {last : List Char}
    (plainLast : Text.backspace ∉ last) (blank : isBlank last = true) :
    run settings prompts block (lines ++ [last]) =
      ⟨(if prompts then String.join (List.replicate (lines.length + 1) "   ...> ") else "") ++
          answer settings (document (block ++ lines)) ++ asked prompts [], .exhausted⟩ := by
  have ask (block : List (List Char)) (opened : block ≠ []) :
      asked prompts block = if prompts then "   ...> " else "" := by
    simp [asked, prompt, opened]
  induction lines generalizing block with
  | nil =>
      rw [List.nil_append, run_close (Text.corrected?_of_not_mem plainLast) [] blank opened,
        ask block opened]
      cases prompts <;> simp [run, Transcript.after, asked, String.append_assoc]
  | cons line lines ih =>
      rw [List.forall_mem_cons] at plain written
      have stays : block = [] → asksToQuit line = false := fun none => (opened none).elim
      rw [List.cons_append, run_keep (Text.corrected?_of_not_mem plain.1) _ written.1 stays,
        ih (by simp) plain.2 written.2, ask block opened, List.append_assoc,
        List.singleton_append]
      cases prompts <;>
        simp [Transcript.after, String.append_assoc, List.replicate_succ, String.join_cons]

theorem run_block (settings : Settings) (prompts : Bool) {lines : List (List Char)}
    (some : lines ≠ []) (plain : ∀ line ∈ lines, Text.backspace ∉ line)
    (written : ∀ line ∈ lines, isBlank line = false)
    (stays : ∀ line ∈ lines.head?, asksToQuit line = false) {last : List Char}
    (plainLast : Text.backspace ∉ last) (blank : isBlank last = true) :
    run settings prompts [] (lines ++ [last]) =
      ⟨dialog prompts lines.length (answer settings (document lines)), .exhausted⟩ := by
  cases lines with
  | nil => exact (some rfl).elim
  | cons line lines =>
      rw [List.forall_mem_cons] at plain written
      rw [List.cons_append, run_keep (Text.corrected?_of_not_mem plain.1) _ written.1
          (fun _ => stays line rfl), List.nil_append,
        run_opened settings prompts (by simp) plain.2 written.2 plainLast blank,
        List.singleton_append]
      cases prompts <;>
        simp [Transcript.after, dialog, asked, prompt, String.append_assoc]

def typed (text blank : String) : String :=
  String.ofList (Text.closed text.toList ++ (blank.toList ++ ['\n']))

theorem lines_closed_of_lines {text : List Char}
    (some : Text.lines text ≠ [])
    (written : ∀ line ∈ Text.lines text, isBlank line = false)
    (stays : ∀ line ∈ (Text.lines text).head?, asksToQuit line = false) :
    Text.lines (Text.closed text) ≠ [] ∧
      (∀ line ∈ Text.lines (Text.closed text), isBlank line = false) ∧
      ∀ line ∈ (Text.lines (Text.closed text)).head?, asksToQuit line = false := by
  have trims := Text.map_trim_lines_closed text
  refine ⟨?_, fun line listed => ?_, fun line listed => ?_⟩
  · intro none
    rw [none, List.map_nil, eq_comm, List.map_eq_nil_iff] at trims
    exact some trims
  · obtain ⟨other, listedOther, same⟩ :=
      List.mem_map.mp (trims ▸ List.mem_map_of_mem (f := Text.trim) listed)
    rw [isBlank, ← same]
    exact written other listedOther
  · have heads := congrArg List.head? trims
    rw [List.head?_map, List.head?_map, Option.mem_def.mp listed, Option.map_some, eq_comm,
      Option.map_eq_some_iff] at heads
    obtain ⟨other, listedOther, same⟩ := heads
    rw [asksToQuit, ← same]
    exact stays other listedOther

theorem runSession_typed (settings : Settings) (prompts : Bool) {text blank : String}
    (some : Text.lines text.toList ≠ [])
    (written : ∀ line ∈ Text.lines text.toList, isBlank line = false)
    (stays : ∀ line ∈ (Text.lines text.toList).head?, asksToQuit line = false)
    (plain : Text.backspace ∉ text.toList)
    (white : ∀ c ∈ blank.toList, Text.isBlank c = true) (one : '\n' ∉ blank.toList) :
    CommandLine.runSession settings prompts (.text (typed text blank)) =
      { exitCode := 0
        output := greeting ++ dialog prompts (Text.lines text.toList).length
          (answer settings (document (Text.lines (Text.closed text.toList)))) } := by
  have lines : Text.lines (typed text blank).toList =
      Text.lines (Text.closed text.toList) ++ [Text.withoutReturn blank.toList] := by
    rw [typed, String.toList_ofList, Text.lines_closed_append, Text.lines_line one]
    rfl
  have count : (Text.lines (Text.closed text.toList)).length =
      (Text.lines text.toList).length := by
    simpa using congrArg List.length (Text.map_trim_lines_closed text.toList)
  have plainClosed : ∀ line ∈ Text.lines (Text.closed text.toList),
      Text.backspace ∉ line :=
    fun line listed member => plain (Text.mem_of_mem_lines_closed listed member)
  have plainLast : Text.backspace ∉ Text.withoutReturn blank.toList := fun member =>
    absurd (white _ (Text.mem_of_mem_withoutReturn member)) (by decide)
  have blankLast : isBlank (Text.withoutReturn blank.toList) = true := by
    rw [isBlank, Text.trim_withoutReturn, Text.trim_eq_nil white]
    rfl
  obtain ⟨someClosed, writtenClosed, staysClosed⟩ := lines_closed_of_lines some written stays
  have heard := run_block settings prompts someClosed plainClosed writtenClosed staysClosed
    plainLast blankLast
  simp [runSession_text, transcript, lines, heard, count, Transcript.after]

end Session

namespace CommandLine

/--
Of a text without backspaces, in which no line is blank and the first does not ask to
quit, a batch and a session make the same query, or both make none.
-/
theorem run_interactive_eq_batch (options : Options) (surroundings : Surroundings)
    {settings : Settings} (text blank : String)
    (loaded : loadSettings (options.config <|> surroundings.configVariable)
      surroundings.find = .ok settings)
    (document : readDocument options.file surroundings = .ok text)
    (some : Text.lines text.toList ≠ [])
    (written : ∀ line ∈ Text.lines text.toList, Session.isBlank line = false)
    (stays : ∀ line ∈ (Text.lines text.toList).head?, Session.asksToQuit line = false)
    (plain : Text.backspace ∉ text.toList)
    (white : ∀ c ∈ blank.toList, Text.isBlank c = true) (one : '\n' ∉ blank.toList) :
    let batch := run { options with interactive := false } surroundings
    let session := run { options with interactive := true }
      { surroundings with input := .text (Session.typed text blank) }
    let shown (answer : String) : Outcome :=
      { exitCode := 0
        output := Session.greeting ++ Session.dialog (isPlain surroundings.terminal)
          (Text.lines text.toList).length answer }
    (∃ query,
      batch = { exitCode := 0, output := query ++ "\n" } ∧
        session = shown (query ++ "\n\n")) ∨
    ∃ error other : CompileError,
      batch = { exitCode := 1, output := error.message ++ "\n" } ∧
        session = shown ("✗ " ++ other.message ++ "\n\n") ∧
        (error = other ∨
          ∃ cause place cause' place', error = .document (.invalidJson cause place) ∧
            other = .document (.invalidJson cause' place')) := by
  intro batch session shown
  have batched : batch = runBatch (options.override settings) text := by
    simp only [batch, run, loaded, document]
    rfl
  have answered : session = shown (Session.answer (options.override settings)
      (Session.document (Text.lines (Text.closed text.toList)))) := by
    simp only [session, run, loaded, if_true]
    exact Session.runSession_typed (options.override settings) _ some written stays plain
      white one
  rw [batched, answered, runBatch, Session.answer]
  rcases compile_of_relined (options.override settings) (Json.relined_document text.toList)
    with same | ⟨cause, place, cause', place', first, second⟩
  · rw [← same]
    cases compile (options.override settings) text with
    | ok query => exact .inl ⟨query, rfl, rfl⟩
    | error error => exact .inr ⟨error, error, rfl, rfl, .inl rfl⟩
  · rw [first, second]
    exact .inr ⟨_, _, rfl, rfl, .inr ⟨cause, place, cause', place', rfl, rfl⟩⟩

private def twoLines : String :=
  "\x7b\"from\":\r\n\"t\"\x7d"

private def around (text : String) : Surroundings :=
  { Surroundings.empty with input := .text text }

theorem run_interactive_eq_batch_of_two_lines :
    (run {} (around twoLines)).output = "select *\nfrom t;\n" ∧
      ∃ query, run {} (around twoLines) = { exitCode := 0, output := query ++ "\n" } ∧
        run { interactive := true } (around (Session.typed twoLines " ")) =
          { exitCode := 0, output := Session.greeting ++ (query ++ "\n\n") } := by
  refine ⟨by decide +kernel, ?_⟩
  have white : ∀ c ∈ " ".toList, Text.isBlank c = true := by
    have space : Text.isBlank ' ' = true := by decide
    simpa using space
  rcases run_interactive_eq_batch {} (around twoLines) twoLines " " rfl rfl (by decide)
    (by decide) (by decide) (by decide) white (by decide) with
    answered | ⟨error, other, failed, -⟩
  · exact answered
  · have succeeds : (run {} (around twoLines)).exitCode = 0 := by decide +kernel
    rw [failed] at succeeds
    cases succeeds

private def mistyped : String :=
  "\x7b\"from\":\"t\"\x7dx\x08"

theorem run_interactive_ne_batch_of_mistyped :
    (Text.lines mistyped.toList).length = 1 ∧
      (∀ line ∈ Text.lines mistyped.toList,
        Session.isBlank line = false ∧ Session.asksToQuit line = false) ∧
      (run {} (around mistyped)).exitCode = 1 ∧
      (run { interactive := true } (around (Session.typed mistyped ""))).output =
        Session.greeting ++ "select *\nfrom t;\n\n" := by
  refine ⟨?_, ?_, ?_, ?_⟩ <;> decide +kernel

end CommandLine

end QueryDoc
