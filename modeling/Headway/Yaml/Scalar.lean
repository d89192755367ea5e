import Headway.Document.Decoder

/-!
# Scalars of YAML

A spot is a place in a text: the characters from there on, with the line and the column, and whether
a collection may start there. From a spot one skips to the next token, or reads a plain or a quoted
scalar, which ends at another spot.

Scalars may go over several lines. Blanks around a line break are dropped; a single break becomes a
blank, and of several breaks the first is dropped. But the separators of lines and of paragraphs,
which also end a line, are never dropped.
-/

namespace Headway

namespace Yaml

/-- Ends a line. All breaks but these three are written as a line feed beforehand. -/
def isBreak (c : Char) : Bool := c = '\n' || c = '\u2028' || c = '\u2029'

/-- Separates words on a line. -/
def isGap (c : Char) : Bool := c = ' ' || c = '\t'

/-- A word is over here. -/
def endsWord : List Char → Bool
  | [] => true
  | c :: _ => isGap c || isBreak c

/-- The start of a document, at the beginning of a line. -/
def isStartMarker (cs : List Char) : Bool := cs.take 3 == ['-', '-', '-'] && endsWord (cs.drop 3)

/-- The end of a document, at the beginning of a line. -/
def isEndMarker (cs : List Char) : Bool := cs.take 3 == ['.', '.', '.'] && endsWord (cs.drop 3)

/-- The start or the end of a document, at the beginning of a line. -/
def isMarker (cs : List Char) : Bool := isStartMarker cs || isEndMarker cs

/-- A place in a text. -/
structure Spot where
  chars : List Char
  line : Nat
  column : Nat
  /-- A list, a mapping or a key may start here. So it is at the start of a line and after the sign
  of an entry, but not after a node or after a key. -/
  fresh : Bool

/-- The number of bytes of some characters. -/
def byteCount : List Char → Nat
  | [] => 0
  | c :: rest => c.utf8Size + byteCount rest

/-- The number of bytes that a key may take up to its colon. -/
def keyLimit : Nat := 1024

namespace Spot

/-- The start of a text. -/
def start (cs : List Char) : Spot := ⟨cs, 0, 0, true⟩

/-- Nothing is left, or the document is over. -/
def isOver (s : Spot) : Bool := s.chars.isEmpty || s.column = 0 && isMarker s.chars

/-- An entry of a list starts here. -/
def isDash (s : Spot) : Bool :=
  match s.chars with
  | '-' :: rest => endsWord rest
  | _ => false

/-- A key of any kind follows here. -/
def isQuestion (s : Spot) : Bool :=
  match s.chars with
  | '?' :: rest => endsWord rest
  | _ => false

/-- The value of an entry follows here. -/
def isColon (s : Spot) : Bool :=
  match s.chars with
  | ':' :: rest => endsWord rest
  | _ => false

/-- The place a number of characters further on the line. -/
def forward (s : Spot) (n : Nat) : Spot := ⟨s.chars.drop n, s.line, s.column + n, false⟩

/-- The place after the sign of an entry. -/
def afterSign (s : Spot) : Spot := { s.forward 1 with fresh := true }

/-- Stands at the start of a further entry of a collection in a column. -/
def isAt (s : Spot) (column : Nat) : Bool := s.fresh && s.column = column

/-- What starts at the first spot is a key for the colon at the second: they are on one line and not
too far apart. -/
def isKeyFor (s colon : Spot) : Bool :=
  s.line = colon.line && byteCount (s.chars.take (colon.column - s.column)) ≤ keyLimit

end Spot

/-- Skips blanks, comments and line breaks, and a byte order mark at the start of a line. Tabs are
skipped between brackets, and where no collection may start, so that they are no indentation. -/
def skip (brackets fresh comment : Bool) (line column : Nat) : List Char → Spot
  | [] => ⟨[], line, column, fresh⟩
  | c :: rest =>
    if isBreak c then skip brackets (fresh || !brackets) false (line + 1) 0 rest
    else if comment then skip brackets fresh true line (column + 1) rest
    else if c = ' ' || (brackets || !fresh) && c = '\t' || column = 0 && c = '\ufeff' then
      skip brackets fresh false line (column + 1) rest
    else if c = '#' then skip brackets fresh true line (column + 1) rest
    else ⟨c :: rest, line, column, fresh⟩

/-- The next token between brackets. -/
def Spot.nextInside (s : Spot) : Spot := skip true s.fresh false s.line s.column s.chars

/-- The next token outside brackets. -/
def Spot.next (s : Spot) : Spot := skip false s.fresh false s.line s.column s.chars

/-! ## Folding -/

/-- What stands between two words of a scalar. -/
inductive Fold where
  /-- Blanks on one line, in reverse. -/
  | blanks (reversed : List Char)
  /-- A line break, unless it is escaped, and the line breaks after it, in reverse. -/
  | breaks (first : Option Char) (more : List Char)

namespace Fold

/-- Nothing. -/
def none : Fold := .blanks []

/-- One more line break. -/
def addBreak (c : Char) : Fold → Fold
  | .blanks _ => .breaks (some c) []
  | .breaks first more => .breaks first (c :: more)

/-- One more blank, which counts only on the line of the word before. -/
def addBlank (c : Char) : Fold → Fold
  | .blanks cs => .blanks (c :: cs)
  | f => f

/-- There is a line break between the words. -/
def hasBreak : Fold → Bool
  | .blanks _ => false
  | .breaks _ _ => true

/-- There is something between the words. -/
def isSome : Fold → Bool
  | .blanks cs => !cs.isEmpty
  | .breaks _ _ => true

/-- What is left of it, in reverse. -/
def joint : Fold → List Char
  | .blanks cs => cs
  | .breaks .none more => more
  | .breaks (some '\n') [] => [' ']
  | .breaks (some '\n') more => more
  | .breaks (some c) more => more ++ [c]

end Fold

/-! ## Plain scalars -/

/-- Characters that mean something between brackets. -/
def isBracketSign (c : Char) : Bool := [',', '[', ']', '\x7b', '\x7d'].contains c

/-- Characters with which no plain scalar starts. -/
def isSign (c : Char) : Bool :=
  isBracketSign c || ['#', '&', '*', '!', '|', '>', '\'', '"', '%', '@', '\x60'].contains c

/-- A plain scalar starts here. -/
def startsPlain (brackets : Bool) : List Char → Bool
  | [] => false
  | c :: rest =>
    if c = '-' then !endsWord rest
    else if c = '?' || c = ':' then !brackets && !endsWord rest
    else !isSign c && !isGap c && !isBreak c

/-- A plain scalar is over: at a comment, on a line that is not indented enough, at a marker, at a
colon that ends a word, and between brackets at one of their signs. -/
def endsPlain (brackets : Bool) (indent : Nat) (fold : Fold) (column : Nat) : List Char → Bool
  | [] => true
  | c :: rest =>
    (fold.isSome && c = '#') || (fold.hasBreak && !brackets && column < indent) ||
      (fold.hasBreak && column = 0 && isMarker (c :: rest)) || (c = ':' && endsWord rest) ||
      (brackets && isBracketSign c)

/-- A text from its characters in reverse, with the spot after it. -/
def textBefore (reversed : List Char) (s : Spot) : String × Spot :=
  (String.ofList reversed.reverse, s)

/-- Reads a plain scalar, which goes on over lines that are indented by some columns. There is no
result where a colon or a tab stands that is not allowed to. -/
def readPlain (brackets : Bool) (indent : Nat) (sofar : List Char) (fold : Fold)
    (line column : Nat) : List Char → Option (String × Spot)
  | [] => some (textBefore sofar ⟨[], line, column, fold.hasBreak⟩)
  | c :: rest =>
    if isBreak c then readPlain brackets indent sofar (fold.addBreak c) (line + 1) 0 rest
    else if isGap c then
      if fold.hasBreak && column < indent && c = '\t' then none
      else readPlain brackets indent sofar (fold.addBlank c) line (column + 1) rest
    else if endsPlain brackets indent fold column (c :: rest) then
      some (textBefore sofar ⟨c :: rest, line, column, fold.hasBreak⟩)
    else if brackets && c = ':' && (rest.head?.any fun d => isBracketSign d || d = '?') then none
    else readPlain brackets indent (c :: (fold.joint ++ sofar)) .none line (column + 1) rest

/-! ## Quoted scalars -/

/-- The character that a letter after a backslash stands for. -/
def escaped? : Char → Option Char
  | '0' => some '\x00'
  | 'a' => some '\x07'
  | 'b' => some '\x08'
  | 't' => some '\t'
  | '\t' => some '\t'
  | 'n' => some '\n'
  | 'v' => some '\x0b'
  | 'f' => some '\x0c'
  | 'r' => some '\r'
  | 'e' => some '\x1b'
  | ' ' => some ' '
  | '"' => some '"'
  | '/' => some '/'
  | '\\' => some '\\'
  | 'N' => some '\u0085'
  | '_' => some '\u00a0'
  | 'L' => some '\u2028'
  | 'P' => some '\u2029'
  | _ => none

/-- The number of hexadecimal digits that follow a letter after a backslash. -/
def hexDigits? : Char → Option Nat
  | 'x' => some 2
  | 'u' => some 4
  | 'U' => some 8
  | _ => none

/-- The character with a number, if there is one. -/
def scalarValue? (n : Nat) : Option Char := if n.isValidChar then some (Char.ofNat n) else none

/-- Where one is inside quotes. -/
inductive QuoteState where
  /-- Between characters. -/
  | inside
  /-- After a single quote, which ends the scalar unless it is followed by another one. -/
  | singleQuote
  /-- After a backslash. -/
  | backslash
  /-- Some more hexadecimal digits are to come. -/
  | hex (more value : Nat)

/-- Reads a quoted scalar after its opening quote. -/
def readQuoted (double : Bool) (state : QuoteState) (sofar : List Char) (fold : Fold)
    (line column : Nat) : List Char → Option (String × Spot)
  | [] =>
    match state with
    | .singleQuote => some (textBefore sofar ⟨[], line, column, false⟩)
    | _ => none
  | c :: rest =>
    match state with
    | .singleQuote =>
      if c = '\'' then readQuoted double .inside ('\'' :: sofar) .none line (column + 1) rest
      else some (textBefore sofar ⟨c :: rest, line, column, false⟩)
    | .backslash =>
      if isBreak c then readQuoted double .inside sofar (.breaks none []) (line + 1) 0 rest
      else
        match hexDigits? c, escaped? c with
        | some n, _ => readQuoted double (.hex n 0) sofar .none line (column + 1) rest
        | none, some x => readQuoted double .inside (x :: sofar) .none line (column + 1) rest
        | none, none => none
    | .hex more value =>
      match Decoder.digitIn? 16 c with
      | none => none
      | some d =>
        let value := value * 16 + d
        if more ≤ 1 then
          match scalarValue? value with
          | some x => readQuoted double .inside (x :: sofar) .none line (column + 1) rest
          | none => none
        else
          readQuoted double (.hex (more - 1) value) sofar .none line (column + 1) rest
    | .inside =>
      if column = 0 && isMarker (c :: rest) then none
      else if isBreak c then readQuoted double .inside sofar (fold.addBreak c) (line + 1) 0 rest
      else if isGap c then
        readQuoted double .inside sofar (fold.addBlank c) line (column + 1) rest
      else
        let sofar := fold.joint ++ sofar
        if double && c = '"' then
          some (textBefore sofar ⟨rest, line, column + 1, false⟩)
        else if double && c = '\\' then
          readQuoted double .backslash sofar .none line (column + 1) rest
        else if !double && c = '\'' then
          readQuoted double .singleQuote sofar .none line (column + 1) rest
        else
          readQuoted double .inside (c :: sofar) .none line (column + 1) rest

/-- Reads a scalar, plain or quoted. -/
def readScalar (brackets : Bool) (indent : Nat) (s : Spot) : Option (Document × Spot) :=
  match s.chars with
  | '"' :: rest =>
    (readQuoted true .inside [] .none s.line (s.column + 1) rest).map fun (t, s) => (.text t, s)
  | '\'' :: rest =>
    (readQuoted false .inside [] .none s.line (s.column + 1) rest).map fun (t, s) => (.text t, s)
  | cs =>
    if startsPlain brackets cs then
      (readPlain brackets indent [] .none s.line s.column cs).map fun (t, s) => (.plain t, s)
    else
      none

end Yaml

end Headway
