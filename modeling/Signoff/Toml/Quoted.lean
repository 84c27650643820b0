/-
# `Signoff.Toml.Quoted` — keys, texts and what may stand between them

Texts come in four forms: with escapes between `"`, as they are between `'`, and both over several
lines between three quotes.  Control characters other than the tab are refused everywhere, and a
carriage return only counts as part of a line end.
-/
import Signoff.Json.Token
import Signoff.Toml.Table

namespace Signoff.Toml

/-- May the character stand in a comment or a text?  The tab may, other controls may not. -/
def isPlainChar (c : Char) : Bool := c == '\t' || (' ' ≤ c && c != '\x7f')

/-- Is the character a blank within a line? -/
def isSpace (c : Char) : Bool := c == ' ' || c == '\t'

def skipSpaces (cs : List Char) : List Char := cs.dropWhile isSpace

/-! ## Between lines -/

/-- The rest after a comment, from its line end on. -/
def skipComment : List Char → Option (List Char)
  | [] => some []
  | '\n' :: cs => some ('\n' :: cs)
  | '\r' :: '\n' :: cs => some ('\n' :: cs)
  | c :: cs => if isPlainChar c then skipComment cs else none

/-- The rest after the end of a line, a comment before it included. -/
def skipLineEnd (cs : List Char) : Option (List Char) :=
  let atEnd : List Char → Option (List Char)
    | [] => some []
    | '\n' :: cs => some cs
    | '\r' :: '\n' :: cs => some cs
    | _ => none
  match skipSpaces cs with
  | '#' :: cs => (skipComment cs).bind atEnd
  | cs => atEnd cs

/-- The rest after blanks, line ends and comments; within a comment if `comment`. -/
def skipLayout (comment : Bool) : List Char → Option (List Char)
  | [] => some []
  | '\n' :: cs => skipLayout false cs
  | '\r' :: '\n' :: cs => skipLayout false cs
  | c :: cs =>
    if comment then (if isPlainChar c then skipLayout true cs else none)
    else if isSpace c then skipLayout false cs
    else if c = '#' then skipLayout true cs
    else some (c :: cs)

/-! ## Texts -/

namespace Quoted

/-- The character of an escape by one letter. -/
def escaped? : Char → Option Char
  | 'b' => some '\x08'
  | 't' => some '\t'
  | 'n' => some '\n'
  | 'f' => some '\x0c'
  | 'r' => some '\r'
  | 'e' => some '\x1b'
  | '"' => some '"'
  | '\\' => some '\\'
  | _ => none

/-- The number of digits of an escape by number. -/
def escapeLength? : Char → Option Nat
  | 'x' => some 2
  | 'u' => some 4
  | 'U' => some 8
  | _ => none

def scalar? (n : Nat) : Option Char := if n.isValidChar then some (Char.ofNat n) else none

/-- What an open text waits for. -/
inductive Mode where
  | plain
  /-- A backslash was taken. -/
  | escape
  /-- `left` digits of a number are still to come. -/
  | digits (left value : Nat)
  /-- A backslash ended a line: blanks up to the next character are left out. -/
  | trimming
  /-- A backslash and blanks were taken: the line has to end. -/
  | lineEnd

/-- A character in a text with escapes on one line.  `none` if it cannot stand there. -/
def takeEscape (mode : Mode) (acc : List Char) (c : Char) : Option (Mode × List Char) :=
  match mode with
  | .escape =>
    match escaped? c, escapeLength? c with
    | some e, _ => some (.plain, e :: acc)
    | none, some n => some (.digits n 0, acc)
    | none, none => none
  | .digits (left + 1) value =>
    match Json.Quoted.hexValue? c with
    | none => none
    | some d =>
      if left = 0 then (scalar? (value * 16 + d)).map fun c => (.plain, c :: acc)
      else some (.digits left (value * 16 + d), acc)
  | _ => none

/-- The rest of a text on one line with escapes, after what was read so far (last first). -/
def readEscaped (mode : Mode) (acc : List Char) : List Char → Option (String × List Char)
  | [] => none
  | c :: cs =>
    match mode with
    | .plain =>
      if c = '"' then some (String.ofList acc.reverse, cs)
      else if c = '\\' then readEscaped .escape acc cs
      else if isPlainChar c then readEscaped .plain (c :: acc) cs
      else none
    | mode =>
      match takeEscape mode acc c with
      | some (mode, acc) => readEscaped mode acc cs
      | none => none

/-- The rest of a text on one line without escapes. -/
def readLiteral (acc : List Char) : List Char → Option (String × List Char)
  | [] => none
  | c :: cs =>
    if c = '\'' then some (String.ofList acc.reverse, cs)
    else if isPlainChar c then readLiteral (c :: acc) cs
    else none

/-- Quotes that close a text over several lines: three, and up to two more that belong to it. -/
def closing? (quote : Char) (cs : List Char) : Option (Nat × List Char) :=
  let run := (cs.takeWhile (· == quote)).length
  if run < 3 then none else some (min run 5 - 3, cs.drop (min run 5))

/-- The rest of a text over several lines with escapes. -/
def readEscapedLines (mode : Mode) (acc : List Char) : List Char → Option (String × List Char)
  | [] => none
  | '\r' :: '\n' :: cs =>
    match mode with
    | .plain => readEscapedLines .plain ('\n' :: '\r' :: acc) cs
    | .escape | .trimming | .lineEnd => readEscapedLines .trimming acc cs
    | .digits _ _ => none
  | c :: cs =>
    match mode with
    | .plain =>
      if c = '"' then
        match closing? '"' (c :: cs) with
        | some (extra, rest) => some (String.ofList (acc.reverse ++ List.replicate extra '"'), rest)
        | none => readEscapedLines .plain (c :: acc) cs
      else if c = '\\' then readEscapedLines .escape acc cs
      else if c = '\n' ∨ isPlainChar c then readEscapedLines .plain (c :: acc) cs
      else none
    | .trimming =>
      if c = '\n' ∨ isSpace c then readEscapedLines .trimming acc cs
      else if c = '"' then
        match closing? '"' (c :: cs) with
        | some (extra, rest) => some (String.ofList (acc.reverse ++ List.replicate extra '"'), rest)
        | none => readEscapedLines .plain (c :: acc) cs
      else if c = '\\' then readEscapedLines .escape acc cs
      else if isPlainChar c then readEscapedLines .plain (c :: acc) cs
      else none
    | .lineEnd =>
      if c = '\n' then readEscapedLines .trimming acc cs
      else if isSpace c then readEscapedLines .lineEnd acc cs
      else none
    | .escape =>
      if c = '\n' then readEscapedLines .trimming acc cs
      else if isSpace c then readEscapedLines .lineEnd acc cs
      else
        match takeEscape .escape acc c with
        | some (mode, acc) => readEscapedLines mode acc cs
        | none => none
    | .digits left value =>
      match takeEscape (.digits left value) acc c with
      | some (mode, acc) => readEscapedLines mode acc cs
      | none => none

/-- The rest of a text over several lines without escapes. -/
def readLiteralLines (acc : List Char) : List Char → Option (String × List Char)
  | [] => none
  | '\r' :: '\n' :: cs => readLiteralLines ('\n' :: '\r' :: acc) cs
  | c :: cs =>
    if c = '\'' then
      match closing? '\'' (c :: cs) with
      | some (extra, rest) => some (String.ofList (acc.reverse ++ List.replicate extra '\''), rest)
      | none => readLiteralLines (c :: acc) cs
    else if c = '\n' ∨ isPlainChar c then readLiteralLines (c :: acc) cs
    else none

/-- A line end just after the opening quotes does not belong to the text. -/
def dropFirstLineEnd : List Char → List Char
  | '\n' :: cs => cs
  | '\r' :: '\n' :: cs => cs
  | cs => cs

/-- The text that the characters start with, and the rest. -/
def read : List Char → Option (String × List Char)
  | '"' :: '"' :: '"' :: cs => readEscapedLines .plain [] (dropFirstLineEnd cs)
  | '\'' :: '\'' :: '\'' :: cs => readLiteralLines [] (dropFirstLineEnd cs)
  | '"' :: cs => readEscaped .plain [] cs
  | '\'' :: cs => readLiteral [] cs
  | _ => none

end Quoted

/-! ## Keys -/

/-- May the character stand in a key without quotes? -/
def isBareChar (c : Char) : Bool := c.isAlphanum || c == '-' || c == '_'

/-- One name of a key, and the rest. -/
def readName : List Char → Option (String × List Char)
  | '"' :: cs => Quoted.readEscaped .plain [] cs
  | '\'' :: cs => Quoted.readLiteral [] cs
  | cs =>
    match cs.takeWhile isBareChar with
    | [] => none
    | name => some (String.ofList name, cs.dropWhile isBareChar)

/-- The names of a key after the first, which may have `room` more parents, and the rest after
blanks. -/
def readMoreNames (parents : List String) (name : String) :
    Nat → List Char → Option (Key × List Char)
  | room, cs =>
    match room, skipSpaces cs with
    | room + 1, '.' :: cs =>
      match readName (skipSpaces cs) with
      | some (next, cs) => readMoreNames (name :: parents) next room cs
      | none => none
    | 0, '.' :: _ => none
    | _, cs => some (⟨parents.reverse, name⟩, cs)

/-- The greatest number of names of a key. -/
def keyLimit : Nat := 80

/-- The key that a text without leading blanks starts with, and the rest after blanks. -/
def readKey (cs : List Char) : Option (Key × List Char) :=
  match readName cs with
  | some (name, cs) => readMoreNames [] name (keyLimit - 1) cs
  | none => none

end Signoff.Toml
