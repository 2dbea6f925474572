/-
  Asking the operator.

  A recovery cannot be undone, so it is confirmed first.

  1. **The answer.** A question is answered by one line of input.  Only a plain yes counts, in whatever
     case and with blanks around it; everything else is a no, and so is the end of the input.  A line
     that is no text in UTF-8 is neither, and asking fails.  What follows the first line is left for
     others to read.

  2. **The exchange** is what asking comes to: what was written, the answer, and the input that is left.
     The question is written where the report will be written later, so it is the first of what a run
     prints.

  3. **Who is asked.** The yes may have been given in advance, and then nothing is written or read.
     Without a terminal there is nobody to ask, and that is an error and not a no.
-/
import QuorumRescue.Text.Blank
import QuorumRescue.Text.Lower

namespace QuorumRescue.Prompt

/-- The warning before a recovery. -/
def warning : String :=
  "This program should only be used to recover from specific consensus\n"
    ++ "HA related problems. Casual use is strongly discouraged.\n"
    ++ "Irreversible damage may be caused to a controller deployment through\n"
    ++ "improper use of this tool.\n"
    ++ "\n"
    ++ "Aside from limited cases, this program should not be run while\n"
    ++ "controller machine agents are running.\n"
    ++ "\n"
    ++ "Ok to proceed?"

/-- Why there is no answer. -/
inductive Fault
  | notText
  | notInteractive
deriving DecidableEq, Repr

def Fault.message : Fault → String
  | .notText => "stream did not contain valid UTF-8"
  | .notInteractive =>
      "Non-interactive mode: use --yes to confirm recovery without a prompt."

/-- What is written for a question. -/
def text (question : String) : String := question ++ " [y/n] "

/-- The first line, with its line feed, and what follows it. -/
def firstLine : List UInt8 → List UInt8 × List UInt8
  | [] => ([], [])
  | b :: rest =>
      if b = 10 then ([b], rest)
      else
        match firstLine rest with
        | (line, after) => (b :: line, after)

/-- Whether a line is a yes. -/
def isYes (line : List Char) : Bool :=
  let answer := Text.lower (Text.trim line)
  answer == ['y'] || answer == ['y', 'e', 's']

/-- The answer in a line. -/
def answer (line : List UInt8) : Except Fault Bool :=
  match String.fromUTF8? ⟨line.toArray⟩ with
  | some text => .ok (isYes text.toList)
  | none => .error .notText

/-- What asking comes to: what was written, the answer, and the input that is left. -/
structure Exchange where
  output : String
  answer : Except Fault Bool
  rest : List UInt8

/-- Asks a question. -/
def ask (question : String) (input : List UInt8) : Exchange :=
  match firstLine input with
  | (line, rest) => ⟨text question, answer line, rest⟩

/-- Has a recovery confirmed.  Nothing is written if the yes was given in advance.  Without a terminal
nobody can be asked, so then it has to be. -/
def consult (yes interactive : Bool) (input : List UInt8) : Exchange :=
  if yes then ⟨"", .ok true, input⟩
  else if interactive then ask warning input
  else ⟨"", .error .notInteractive, input⟩

/-- Confirms a recovery. -/
def confirm (yes interactive : Bool) (input : List UInt8) : Except Fault Bool :=
  (consult yes interactive input).answer

example : isYes ['\t', 'Y', 'e', 'S', '\n'] = true := by decide
example : firstLine [121, 10, 110] = ([121, 10], [110]) := by decide

end QuorumRescue.Prompt
