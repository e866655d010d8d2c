import LogSieve.Text.Blank

/-!
# Lexemes of a query

A query text is cut into lexemes at spaces and tabs.  Quotation marks and the
slashes of a pattern keep their contents together; they stay in the lexeme, as
do backslashes, so that the reading of a lexeme can still see them.

The scan moves between four modes.  After the slash that closes a pattern the
flags are taken at once, and if the pattern ends there, so does the lexeme.
-/

namespace LogSieve.Query

/-- Where the scan of a query stands. -/
inductive Mode where
  /-- Outside of quotation marks and patterns. -/
  | plain
  /-- Between quotation marks. -/
  | quoted
  /-- Inside a pattern. -/
  | pattern
  /-- Between quotation marks inside a pattern. -/
  | quotedInPattern
  deriving DecidableEq

/-- The mode after a quotation mark that is not escaped. -/
def Mode.afterQuote : Mode → Mode
  | plain => quoted
  | quoted => plain
  | pattern => quotedInPattern
  | quotedInPattern => pattern

/-- The characters that separate lexemes. -/
def isSeparator (c : Char) : Bool := c == ' ' || c == '\t'

/-- The characters that may follow a pattern as its flags. -/
def isPatternFlag (c : Char) : Bool := ['i', 'g', 'm', 's', 'u', 'y'].contains c

/-- Whether a lexeme ends before this text: at the end or at a separator. -/
def endsLexeme : Text → Bool
  | [] => true
  | c :: _ => isSeparator c

/-- The lexemes of the rest of a query.  `held` is what the current lexeme has so far, last
character first; a held text that is blank makes no lexeme and is held on to. -/
def scan (mode : Mode) (escaped : Bool) (held : Text) (text : Text) : List Text :=
  match text with
  | [] =>
    match Text.strip held.reverse with
    | [] => []
    | lexeme => [lexeme]
  | c :: rest =>
    if escaped then scan mode false (c :: held) rest
    else if c = '\\' then scan mode true (c :: held) rest
    else if c = '"' then scan mode.afterQuote false (c :: held) rest
    else if c = '/' ∧ mode = .plain then scan .pattern false (c :: held) rest
    else if c = '/' ∧ mode = .pattern then
      let held := (rest.takeWhile isPatternFlag).reverse ++ c :: held
      let after := rest.dropWhile isPatternFlag
      if endsLexeme after then
        match Text.strip held.reverse with
        | [] => scan .plain false held after
        | lexeme => lexeme :: scan .plain false [] after
      else scan .plain false held after
    else if isSeparator c ∧ mode = .plain then
      match Text.strip held.reverse with
      | [] => scan .plain false held rest
      | lexeme => lexeme :: scan .plain false [] rest
    else scan mode false (c :: held) rest
termination_by text.length
decreasing_by
  all_goals first
    | exact Nat.lt_succ_self _
    | exact Nat.lt_succ_of_le (List.dropWhile_suffix _).length_le

/-- The lexemes of a query text. -/
def lexemes (text : Text) : List Text := scan .plain false [] text

end LogSieve.Query
