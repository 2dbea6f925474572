/-
  From text to tokens.

  The lexer reads one token after the other.  Besides the place it stands at, it knows the
  indentations of the blocks that are open, and for every open flow collection, and for the text
  around them, which token could still turn out to be a key.  A colon makes that token a key: its
  mark is put before it, together with the start of a block if the key is indented more deeply than
  the block around it.  A key has to be on one line with its colon, and close to it.  Where only a
  key can stand, a word without a colon is an error.

  A text that breaks off still has the tokens before the break.  But a word that could have become a
  key is not told before it is settled what it is, so such a word, and what follows it, is lost with
  the break.  `tokens` gives the tokens in front of the break, and whether the text reached its end.
-/
import QuorumRescue.Yaml.Lexer.Marks

namespace QuorumRescue.Yaml

/-! ## The state -/

/-- A token that may turn out to be a key. -/
structure Candidate where
  required : Bool
  token : Nat
  position : Position
deriving DecidableEq, Repr

/-- A lexer on its way.  `candidates` has one place for every open flow collection, innermost first,
and one for the text around them. -/
structure Lexer where
  rest : List Char
  position : Position
  indent : Int
  outer : List Int
  fresh : Bool
  candidates : List (Option Candidate)
  tokens : List Token
  count : Nat
  done : Bool

namespace Lexer

/-- Before the first character. -/
def start (text : List Char) : Lexer :=
  ⟨text, ⟨0, 0, 0⟩, -1, [], true, [none], [], 0, false⟩

/-- Whether the lexer is inside a flow collection. -/
def inFlow (s : Lexer) : Bool := 1 < s.candidates.length

/-! ## Adding tokens -/

/-- Adds a token at the end. -/
def emit (s : Lexer) (token : Token) : Lexer :=
  { s with tokens := token :: s.tokens, count := s.count + 1 }

/-- Puts a token before the one with a number. -/
def emitBefore (s : Lexer) (number : Nat) (token : Token) : Lexer :=
  let later := s.count - number
  { s with tokens := s.tokens.take later ++ token :: s.tokens.drop later, count := s.count + 1 }

/-- Opens a block at a column, unless one is open there. -/
def openBlock (s : Lexer) (column : Nat) (number : Nat) (token : Token) : Lexer :=
  if s.inFlow then s
  else if s.indent < column then
    { s with indent := column, outer := s.indent :: s.outer }.emitBefore number token
  else s

/-- Closes the blocks that are indented more deeply than a column. -/
def closeBlocks (column : Int) : (outer : List Int) → Lexer → Lexer
  | [], s => s
  | around :: outer, s =>
      if column < s.indent then
        closeBlocks column outer ({ s with indent := around, outer := outer }.emit .blockEnd)
      else s

/-- Closes the blocks that end before a column; flow collections know no indentation. -/
def dedent (s : Lexer) (column : Int) : Lexer :=
  if s.inFlow then s else closeBlocks column s.outer s

/-! ## Candidates for keys -/

/-- How far a colon may be from the start of its key. -/
def longestKey : Nat := 1024

/-- Whether a candidate can no longer become a key. -/
def isStale (p : Position) (c : Candidate) : Bool :=
  c.position.line < p.line || c.position.index + longestKey < p.index

/-- Drops the candidates that are stale; one that had to become a key is an error. -/
def dropStale (s : Lexer) : Option Lexer :=
  if s.candidates.any fun c => c.any fun c => isStale s.position c && c.required then none
  else some { s with candidates := s.candidates.map fun c => c.filter fun c => !isStale s.position c }

/-- Gives up the innermost candidate; one that had to become a key is an error. -/
def dropCandidate (s : Lexer) : Option Lexer :=
  match s.candidates with
  | some c :: outer => if c.required then none else some { s with candidates := none :: outer }
  | _ => some s

/-- Notes the next token as a candidate, where a key may start. -/
def noteCandidate (s : Lexer) : Option Lexer :=
  if s.fresh then
    match s.dropCandidate with
    | none => none
    | some s =>
        let required := !s.inFlow && s.indent == (s.position.column : Int)
        some { s with candidates := some ⟨required, s.count, s.position⟩ :: s.candidates.drop 1 }
  else some s

/-- The number of the first token that may still turn out to be a key. -/
def firstCandidate (s : Lexer) : Option Nat :=
  s.candidates.foldr (fun c first => match c, first with
    | some c, some n => some (min c.token n)
    | some c, none => some c.token
    | none, first => first) none

/-- The tokens that are settled. -/
def settled (s : Lexer) : List Token :=
  match s.firstCandidate with
  | some n => s.tokens.reverse.take n
  | none => s.tokens.reverse

/-! ## Tokens of one kind -/

/-- Goes on behind a token of a given width. -/
def advance (s : Lexer) (width : Nat) (token : Token) : Lexer :=
  { s with rest := s.rest.drop width, position := s.position.right width }.emit token

/-- Goes on where a token that was read ends. -/
def accept (s : Lexer) (lexeme : Lexeme) : Lexer :=
  { s with rest := lexeme.rest, position := lexeme.position }.emit lexeme.token

/-- The end of the text, which ends the last line too. -/
def readEnd (s : Lexer) : Option Lexer :=
  let p := if s.position.column = 0 then s.position else s.position.down 0
  match ({ s with position := p }.dedent (-1)).dropCandidate with
  | none => none
  | some s => some ({ s with fresh := false, done := true }.emit .streamEnd)

/-- A directive. -/
def readDirectiveLine (s : Lexer) : Option Lexer :=
  match (s.dedent (-1)).dropCandidate with
  | none => none
  | some s =>
      (readDirective (s.position.right 1) (s.rest.drop 1)).map fun lexeme =>
        { s with fresh := false }.accept lexeme

/-- A line that starts or ends a document. -/
def readMarker (s : Lexer) (token : Token) : Option Lexer :=
  match (s.dedent (-1)).dropCandidate with
  | none => none
  | some s => some ({ s with fresh := false }.advance 3 token)

/-- The start of a flow collection. -/
def readOpen (s : Lexer) (token : Token) : Option Lexer :=
  match s.noteCandidate with
  | none => none
  | some s => some ({ s with candidates := none :: s.candidates, fresh := true }.advance 1 token)

/-- The end of a flow collection. -/
def readClose (s : Lexer) (token : Token) : Option Lexer :=
  match s.dropCandidate with
  | none => none
  | some s =>
      let candidates := if s.inFlow then s.candidates.drop 1 else s.candidates
      some ({ s with candidates := candidates, fresh := false }.advance 1 token)

/-- The separator in a flow collection. -/
def readComma (s : Lexer) : Option Lexer :=
  match s.dropCandidate with
  | none => none
  | some s => some ({ s with fresh := true }.advance 1 .comma)

/-- The mark of an item in a block. -/
def readDash (s : Lexer) : Option Lexer :=
  if !s.inFlow && !s.fresh then none
  else
    match (s.openBlock s.position.column s.count .sequenceBlock).dropCandidate with
    | none => none
    | some s => some ({ s with fresh := true }.advance 1 .dash)

/-- The mark before a key. -/
def readQuestion (s : Lexer) : Option Lexer :=
  if !s.inFlow && !s.fresh then none
  else
    match (s.openBlock s.position.column s.count .mappingBlock).dropCandidate with
    | none => none
    | some s => some ({ s with fresh := !s.inFlow }.advance 1 .key)

/-- The mark before a value, which may make the candidate a key. -/
def readColon (s : Lexer) : Option Lexer :=
  match s.candidates with
  | some c :: outer =>
      let s := (s.emitBefore c.token .key).openBlock c.position.column c.token .mappingBlock
      some ({ s with candidates := none :: outer, fresh := false }.advance 1 .value)
  | _ =>
      if !s.inFlow && !s.fresh then none
      else
        let s := s.openBlock s.position.column s.count .mappingBlock
        some ({ s with fresh := !s.inFlow }.advance 1 .value)

/-- A token that may be a key. -/
def readCandidate (s : Lexer) (read : Lexer → Option Lexeme) : Option Lexer :=
  match s.noteCandidate with
  | none => none
  | some s => (read s).map fun lexeme => { s with fresh := false }.accept lexeme

/-- A block of lines. -/
def readLines (s : Lexer) (literal : Bool) : Option Lexer :=
  match s.dropCandidate with
  | none => none
  | some s =>
      (readBlockScalar literal s.indent (s.position.right 1) (s.rest.drop 1)).map fun r =>
        { s with fresh := true }.accept
          ⟨.scalar (if literal then .literal else .folded) r.text, r.position, r.rest⟩

/-- A scalar between quotes. -/
def readQuotedScalar (s : Lexer) (single : Bool) : Option Lexer :=
  s.readCandidate fun s =>
    let p := s.position.right 1
    let text := s.rest.drop 1
    if single then
      (readSingle [] .none p text).map fun r => ⟨.scalar .singleQuoted r.text, r.position, r.rest⟩
    else
      (readDouble [] .none none p text).map fun r => ⟨.scalar .doubleQuoted r.text, r.position, r.rest⟩

/-- A plain scalar; a line end behind it makes way for a key. -/
def readPlainScalar (s : Lexer) : Option Lexer :=
  match s.noteCandidate with
  | none => none
  | some s =>
      (readPlain s.inFlow (s.indent + 1) [] .none s.position s.rest).map fun (r, broke) =>
        { s with fresh := broke }.accept ⟨.scalar .plain r.text, r.position, r.rest⟩

/-! ## The next token -/

/-- Whether a plain scalar may start here. -/
def startsPlain (flow : Bool) (text : List Char) : Bool :=
  match text with
  | [] => false
  | c :: rest =>
      if c == '-' then !rest.head?.any isBlank
      else if c == '?' || c == ':' then !flow && !endsWord rest
      else
        !(isBlank c || isBreak c || isFlowMark c || c == '#' || c == '&' || c == '*' || c == '!'
          || c == '|' || c == '>' || c == '\'' || c == '"' || c == '%' || c == '@' || c == '\x60')

/-- Reads the token that starts here. -/
def readToken (s : Lexer) : Option Lexer :=
  match s.rest with
  | [] => s.readEnd
  | c :: rest =>
      let flow := s.inFlow
      if s.position.column = 0 ∧ c = '%' then s.readDirectiveLine
      else if s.position.column = 0 ∧ startsMarker '-' s.rest then s.readMarker .documentStart
      else if s.position.column = 0 ∧ startsMarker '.' s.rest then s.readMarker .documentEnd
      else if c = '[' then s.readOpen .sequenceOpen
      else if c = '\x7b' then s.readOpen .mappingOpen
      else if c = ']' then s.readClose .sequenceClose
      else if c = '\x7d' then s.readClose .mappingClose
      else if c = ',' then s.readComma
      else if c = '-' ∧ endsWord rest then s.readDash
      else if c = '?' ∧ (flow ∨ endsWord rest) then s.readQuestion
      else if c = ':' ∧ (flow ∨ endsWord rest) then s.readColon
      else if c = '*' then s.readCandidate fun s => readAnchor .alias (s.position.right 1) rest
      else if c = '&' then s.readCandidate fun s => readAnchor .anchor (s.position.right 1) rest
      else if c = '!' then s.readCandidate fun s => readTag flow s.position s.rest
      else if c = '|' ∧ ¬ flow then s.readLines true
      else if c = '>' ∧ ¬ flow then s.readLines false
      else if c = '\'' then s.readQuotedScalar true
      else if c = '"' then s.readQuotedScalar false
      else if startsPlain flow s.rest then s.readPlainScalar
      else none

/-- Passes to the next token and reads it. -/
def next (s : Lexer) : Option Lexer :=
  let gap := skipGap s.inFlow s.fresh false s.position s.rest
  match { s with fresh := gap.fresh, position := gap.position, rest := gap.rest }.dropStale with
  | none => none
  | some s =>
      match (s.dedent s.position.column).readToken with
      | none => none
      | some s => s.dropStale

/-- Reads to the end or to the first error. -/
def run : (fuel : Nat) → Lexer → List Token × Bool
  | 0, s => (s.settled, false)
  | fuel + 1, s =>
      if s.done then (s.tokens.reverse, true)
      else
        match s.next with
        | none => (s.settled, false)
        | some s => run fuel s

end Lexer

/-- The tokens of a text, and whether it could be read to its end. -/
def tokens (text : List Char) : List Token × Bool :=
  if text.all isReadable then (Lexer.start text).run (text.length + 2) else ([], false)

end QuorumRescue.Yaml
