/-
  How a text is written as a scalar.

  There are four forms.  A text stands plain if nothing in it could be misread; between single quotes
  if it could be, but needs no escapes; between double quotes if it has characters that cannot stand
  for themselves; and as a block of lines if it has line feeds.  The block form says in its header
  what the lines alone do not show: an indentation that starts with blanks, and whether the text
  ends in no line feed, in one, or in several.
-/
import QuorumRescue.Yaml.Char
import QuorumRescue.Yaml.Plain

namespace QuorumRescue.Yaml

/-! ## What is in a text -/

/-- Whether a character that fits `p` is followed by one that fits `q`. -/
def hasPair (p q : Char → Bool) : List Char → Bool
  | a :: b :: rest => (p a && q b) || hasPair p q (b :: rest)
  | _ => false

def isSpace (c : Char) : Bool := c == ' '

/-- Characters that mean something at the start of a plain scalar. -/
def isLeadMark (c : Char) : Bool :=
  c == '#' || isFlowMark c || c == '&' || c == '*' || c == '!' || c == '|' || c == '>' || c == '\''
    || c == '"' || c == '%' || c == '@' || c == '\x60'

/-- Whether a colon ends a word, or a number sign starts one, after the first character. -/
def hasInnerMark : List Char → Bool
  | a :: b :: rest =>
      (b == ':' && endsWord rest) || (b == '#' && endsWord [a]) || hasInnerMark (b :: rest)
  | _ => false

/-- Whether the text has a mark at its start. -/
def hasLeadMark (text : List Char) : Bool :=
  match text with
  | [] => false
  | c :: rest =>
      isLeadMark c || ((c == '?' || c == ':' || c == '-') && endsWord rest)
        || text.take 3 == ['-', '-', '-'] || text.take 3 == ['.', '.', '.']

/-- Whether the text starts or ends with a space or a line end. -/
def hasLooseEnd (text : List Char) : Bool :=
  let loose := fun c => isSpace c || isBreak c
  text.head?.any loose || text.getLast?.any loose

/-- Texts that no quotes can hold as they are. -/
def needsEscapes (text : List Char) : Bool :=
  text.any (fun c => !isPrintable c) || hasPair isSpace isBreak text

/-! ## Choosing a form -/

/-- The form of a scalar. -/
inductive Form
  | plain
  | single
  | double
  | block
deriving DecidableEq, Repr

/-- Whether a text may stand between single quotes. -/
def fitsSingle (text : List Char) : Bool := !needsEscapes text && !hasPair isBreak isSpace text

/-- Whether a text may stand as a block of lines. -/
def fitsBlock (text : List Char) : Bool := !needsEscapes text && !text.getLast?.any isSpace

/-- Whether a text may stand plain. -/
def fitsPlain (text : List Char) : Bool :=
  fitsSingle text && !text.any isBreak && !hasLooseEnd text && !hasLeadMark text
    && !hasInnerMark text && !isAmbiguous text

/-- The form a text is written in. -/
def formOf (text : List Char) : Form :=
  if text.contains '\n' then (if fitsBlock text then .block else .double)
  else if fitsPlain text then .plain
  else if fitsSingle text then .single
  else .double

/-! ## Writing the forms -/

/-- Puts the indentation before every line that is not empty; `fresh` says whether a line starts. -/
def indentLines (indent : Nat) : (fresh : Bool) → List Char → List Char
  | _, [] => []
  | fresh, c :: rest =>
      if isBreak c then c :: indentLines indent true rest
      else (if fresh then List.replicate indent ' ' else []) ++ c :: indentLines indent false rest

/-- Between single quotes: the quote is doubled, and lines are indented up to the closing quote. -/
def single (indent : Nat) (text : List Char) : List Char :=
  let doubled := text.flatMap fun c => if c = '\'' then ['\'', '\''] else [c]
  let close := if text.getLast?.any isBreak then List.replicate indent ' ' else []
  '\'' :: indentLines indent false doubled ++ close ++ ['\'']

/-- A number in upper-case hexadecimal digits, as many as asked for. -/
def upperHex (count n : Nat) : List Char :=
  (List.range count).reverse.map fun i =>
    let d := n / Nat.pow 16 i % 16
    if d < 10 then Char.ofNat (48 + d) else Char.ofNat (55 + d)

/-- The letter that an escape has for a character, if there is one. -/
def escapeLetter (c : Char) : Option Char :=
  let n := c.toNat
  if n = 0 then some '0'
  else if n = 7 then some 'a'
  else if n = 8 then some 'b'
  else if n = 9 then some 't'
  else if n = 10 then some 'n'
  else if n = 11 then some 'v'
  else if n = 12 then some 'f'
  else if n = 13 then some 'r'
  else if n = 27 then some 'e'
  else if c = '"' then some '"'
  else if c = '\\' then some '\\'
  else if n = 0x85 then some 'N'
  else if n = 0x2028 then some 'L'
  else if n = 0x2029 then some 'P'
  else none

/-- How a character stands between double quotes. -/
def escapeChar (c : Char) : List Char :=
  if isPrintable c && !isBreak c && c != '"' && c != '\\' then [c]
  else
    match escapeLetter c with
    | some letter => ['\\', letter]
    | none =>
        if c.toNat ≤ 0xFF then ['\\', 'x'] ++ upperHex 2 c.toNat
        else if c.toNat ≤ 0xFFFF then ['\\', 'u'] ++ upperHex 4 c.toNat
        else ['\\', 'U'] ++ upperHex 8 c.toNat

/-- Between double quotes. -/
def double (text : List Char) : List Char := '"' :: text.flatMap escapeChar ++ ['"']

/-- What a block's header says about the end of the text. -/
def chompMark (text : List Char) : List Char :=
  match text.reverse with
  | [] => ['-']
  | c :: rest =>
      if !isBreak c then ['-']
      else
        match rest with
        | [] => ['+']
        | d :: _ => if isBreak d then ['+'] else []

/-- A block of lines. -/
def block (indent : Nat) (text : List Char) : List Char :=
  let lead := if text.head?.any (fun c => isSpace c || isBreak c) then ['2'] else []
  ['|'] ++ lead ++ chompMark text ++ ['\n'] ++ indentLines indent true text

/-- A text as a scalar, whose further lines are indented by `indent`. -/
def scalar (indent : Nat) (text : List Char) : List Char :=
  match formOf text with
  | .plain => text
  | .single => single indent text
  | .double => double text
  | .block => block indent text

example : scalar 2 ['a', ':'] = ['\'', 'a', ':', '\''] := by decide
example : scalar 2 ['a', '\n'] = ['|', '\n', ' ', ' ', 'a', '\n'] := by decide

end QuorumRescue.Yaml
