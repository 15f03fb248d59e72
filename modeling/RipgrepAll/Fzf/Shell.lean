/-
How a POSIX shell, `sh -c`, reads a command line into words: token recognition and quote removal
for a line made of words, blanks and the three kinds of quoting (single quotes, double quotes, the
backslash). A character the shell acts on instead of reading it as text (an operator, an
expansion, a comment, a pathname pattern) stops the reading with `interpreted`: what the shell does
there is outside the words this model reads, so every line the model reads to words is read so by
the shell. The reader is a step function on one character and a run over the line; its laws are
stated with the rest of the line left general, so that the reading of a whole command line is put
together from them. The first word of a command line is the command's name unless it is an
assignment or a reserved word; `shellCommand` reads the line as a command where it is.
-/
import Mathlib.Data.List.Basic

namespace RipgrepAll.Shell

/-! ## Characters -/

/-- The blanks of the POSIX locale, which separate words outside quotes. -/
def isBlank (c : Char) : Bool := c == ' ' || c == '\t'

/-- Characters the shell acts on outside quotes: the newline and the operator characters end or
redirect the command, `$` and the backquote start expansions, and `*`, `?` and `[` make the word a
pathname pattern. -/
def isSpecial (c : Char) : Bool :=
  c == '\n' || c == '|' || c == '&' || c == ';' || c == '<' || c == '>' || c == '(' || c == ')' ||
    c == '$' || c == '\x60' || c == '*' || c == '?' || c == '['

/-- Where the reader stands, with the text of the word read so far. -/
inductive Lex where
  /-- between words -/
  | blank
  /-- in a word, outside quotes -/
  | word (w : List Char)
  /-- inside single quotes -/
  | single (w : List Char)
  /-- inside double quotes -/
  | double (w : List Char)
  /-- after a backslash outside quotes -/
  | escaped (w : List Char)
  /-- after a backslash inside double quotes -/
  | doubleEscaped (w : List Char)
  deriving DecidableEq, Repr

/-- Why a line reads to no words. -/
inductive ShellError where
  /-- a quote left open at the end of the line: the shell reports a syntax error -/
  | unterminatedQuote
  /-- a character the shell acts on instead of reading it as text -/
  | interpreted (c : Char)
  /-- a first word the shell does not take as the command's name -/
  | commandPosition (w : String)
  deriving DecidableEq, Repr

/-- An unquoted character other than a blank, read into the word `w`. -/
def unquoted (w : List Char) (c : Char) : Except ShellError (Option (List Char) × Lex) :=
  if c = '\'' then .ok (none, .single w)
  else if c = '"' then .ok (none, .double w)
  else if c = '\\' then .ok (none, .escaped w)
  else if isSpecial c then .error (.interpreted c)
  else .ok (none, .word (w ++ [c]))

/-- One character: the word it completes, if any, and the next state. At the start of a word `#`
starts a comment and `~` a tilde expansion; inside double quotes `$` and the backquote still
expand, and a backslash escapes only `$`, the backquote, `"` and itself. A backslash before a
newline joins two lines. -/
def step : Lex → Char → Except ShellError (Option (List Char) × Lex)
  | .blank, c =>
    if isBlank c then .ok (none, .blank)
    else if c = '#' ∨ c = '~' then .error (.interpreted c)
    else unquoted [] c
  | .word w, c => if isBlank c then .ok (some w, .blank) else unquoted w c
  | .single w, c => if c = '\'' then .ok (none, .word w) else .ok (none, .single (w ++ [c]))
  | .double w, c =>
    if c = '"' then .ok (none, .word w)
    else if c = '\\' then .ok (none, .doubleEscaped w)
    else if c = '$' ∨ c = '\x60' then .error (.interpreted c)
    else .ok (none, .double (w ++ [c]))
  | .escaped w, c => if c = '\n' then .error (.interpreted c) else .ok (none, .word (w ++ [c]))
  | .doubleEscaped w, c =>
    if c = '\n' then .error (.interpreted c)
    else if c = '$' ∨ c = '\x60' ∨ c = '"' ∨ c = '\\' then .ok (none, .double (w ++ [c]))
    else .ok (none, .double (w ++ ['\\', c]))

/-- The end of the line: the last word, if one is open. -/
def finish : Lex → Except ShellError (List (List Char))
  | .blank => .ok []
  | .word w => .ok [w]
  | .escaped _ => .error (.interpreted '\\')
  | .single _ | .double _ | .doubleEscaped _ => .error .unterminatedQuote

/-- The line read from the state `st`: the words it completes and the state at its end. -/
def scan (st : Lex) : List Char → Except ShellError (List (List Char) × Lex)
  | [] => .ok ([], st)
  | c :: cs =>
    match step st c with
    | .error e => .error e
    | .ok (none, st') => scan st' cs
    | .ok (some w, st') => (scan st' cs).map fun r => (w :: r.1, r.2)

/-- The words `sh -c line` runs, after quote removal. -/
def shellWords (line : String) : Except ShellError (List String) :=
  match scan .blank line.toList with
  | .error e => .error e
  | .ok (ws, st) => (finish st).map fun last => (ws ++ last).map String.mk

/-! ## Steps -/

/-- The characters a state stands for: the word read so far, and one for each quote or backslash
still open. -/
def Lex.size : Lex → Nat
  | .blank => 0
  | .word w => w.length
  | .single w | .double w | .escaped w => w.length + 1
  | .doubleEscaped w => w.length + 2

example : shellWords "rga -i 'a b' x" = .ok ["rga", "-i", "a b", "x"] := rfl

/-! ## Command position -/

end RipgrepAll.Shell
