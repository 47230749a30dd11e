import QueryDoc.Query
import QueryDoc.Text.Correction

/-!
# Interactive sessions

A session reads documents from typed lines, once their backspaces are followed.
A blank line closes the block of lines before it, which is compiled and
answered; a line that asks to quit ends the session if no block is open.  A
block that is still open at the end of the lines is dropped.
-/

/-!
## Lines

A line ends with a line feed, before which one carriage return is dropped.  A
last line without a line feed is kept as it is.
-/

namespace QueryDoc.Text

def withoutReturn (line : List Char) : List Char :=
  match line.reverse with
  | '\r' :: rest => rest.reverse
  | _ => line

/-- The lines of a text; `line` holds what was read of the first, backwards. -/
def linesFrom (line : List Char) : List Char → List (List Char)
  | [] => if line.isEmpty then [] else [line.reverse]
  | c :: text =>
      if c = '\n' then
        withoutReturn line.reverse :: linesFrom [] text
      else
        linesFrom (c :: line) text

def lines (text : List Char) : List (List Char) :=
  linesFrom [] text

example : lines "a\r\n\n\r\r\nb\r".toList = ["a".toList, [], ['\r'], ['b', '\r']] := by
  decide

end QueryDoc.Text

/-! ## Blocks and answers -/

namespace QueryDoc.Session

def greeting : String :=
  "--- filter_sql: JSON Filter 到 SQL 编译器 ---\n" ++
    "输入 JSON 文档, 以空行结束; 输入 :quit 退出\n"

def quitWord : List Char := ":quit".toList

def document (block : List (List Char)) : String :=
  String.ofList (block.flatMap (· ++ ['\n']))

def answer (settings : Settings) (text : String) : String :=
  match compile settings text with
  | .ok query => query ++ "\n\n"
  | .error error => "✗ " ++ error.message ++ "\n\n"

def prompt (block : List (List Char)) : String :=
  if block.isEmpty then "filter> " else "   ...> "

inductive Ending where
  | quit
  | exhausted
  /-- A backspace would have cut a character in two. -/
  | torn
  deriving DecidableEq, Repr

structure Transcript where
  text : String
  ending : Ending
  deriving DecidableEq, Repr

def Transcript.after (text : String) (transcript : Transcript) : Transcript :=
  { transcript with text := text ++ transcript.text }

/--
The session over these lines, with the lines of the open block so far.  Every
line, and the end of the lines, is asked for with a prompt if prompts are on.
-/
def run (settings : Settings) (prompts : Bool) (block : List (List Char)) :
    List (List Char) → Transcript
  | [] => ⟨if prompts then prompt block else "", .exhausted⟩
  | typed :: lines =>
      let rest : Transcript :=
        match Text.corrected? typed with
        | none => ⟨"", .torn⟩
        | some line =>
            let text := Text.trim line
            if block = [] ∧ text = quitWord then
              ⟨"", .quit⟩
            else if text ≠ [] then
              run settings prompts (block ++ [line]) lines
            else if block = [] then
              run settings prompts [] lines
            else
              (run settings prompts [] lines).after (answer settings (document block))
      rest.after (if prompts then prompt block else "")

def transcript (settings : Settings) (prompts : Bool) (text : String) : Transcript :=
  (run settings prompts [] (Text.lines text.toList)).after greeting

end QueryDoc.Session
