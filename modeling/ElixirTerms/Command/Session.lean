/-
# Interactive sessions

A session asks for one program a line and reports on each, until it is told to stop or the input
ends.
-/
import ElixirTerms.Report
import ElixirTerms.Unicode.Lower

namespace ElixirTerms.Command.Session

/-- What a session begins with. -/
def banner : Text :=
  Report.printed ["\nInteractive Parser Mode (type 'quit' to exit)", List.replicate 80 '=']

/-- What a session asks with. -/
def prompt : Text := "\nEnter expression: "

/-- What a session ends with when it is told to stop. -/
def goodbye : Text := "Goodbye!\n"

/-- What a session ends with when the input ends. -/
def exiting : Text := "\n\nExiting...\n"

/-- The words that tell a session to stop, in lower case. -/
def stopWords : List Text := ["quit", "exit", "q"]

/-- A text without the blanks around it. -/
def strip (s : Text) : Text :=
  ((s.dropWhile Unicode.isBlank).reverse.dropWhile Unicode.isBlank).reverse

/-- What a session prints in answer to a line, or nothing if the line tells it to stop. -/
def answer? (settings : Report.Settings) (line : Text) : Option Text :=
  let program := strip line
  if stopWords.contains (Unicode.lowerText program) then none
  else if program = [] then some []
  else some (Report.ofText settings program).output

/-- What a session prints from the first prompt on. -/
def replies (settings : Report.Settings) : List Text → Text
  | [] => prompt ++ exiting
  | line :: later =>
    match answer? settings line with
    | none => prompt ++ goodbye
    | some answer => prompt ++ answer ++ replies settings later

/-- All that a session prints, given the lines of its input. -/
def transcript (settings : Report.Settings) (lines : List Text) : Text :=
  banner ++ replies settings lines

end ElixirTerms.Command.Session
