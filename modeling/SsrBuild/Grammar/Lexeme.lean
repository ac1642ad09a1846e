import SsrBuild.Grammar.Token
import SsrBuild.Grammar.Character

/-!
Reading one token from the text. Every reader takes the offset of its text, the count of characters
before it, and walks the text once. What a slash, a closing brace or an angle bracket begins depends
on the place in the grammar, so the plain reading of a token can be replaced: a slash by a regular
expression, a closing brace by the next part of a template, an angle bracket by a longer or a
shorter operator.
-/

set_option autoImplicit false

namespace SsrBuild.Grammar

/-- A text still to be read and the count of characters before it. -/
structure Cursor where
  offset : Nat
  text : List Char
  deriving Inhabited

/-- One token: where it stands, what it spells, the text it begins and the text after it. -/
structure Lexeme where
  token : Token
  start : Nat
  stop : Nat
  /-- A line ends between this token and the one before. -/
  afterLineEnd : Bool
  /-- The name or the string that the token denotes. -/
  value : List Char
  /-- The name is spelled with an escape. -/
  escaped : Bool
  /-- Every escape is one that an untagged template admits. -/
  cooked : Bool
  /-- No escape of a string denotes a lone surrogate. -/
  isPaired : Bool
  /-- Nothing about the token itself is at fault. -/
  sound : Bool
  text : List Char
  rest : List Char
  deriving Inhabited

namespace Lexeme

/-- Skips the next characters that satisfy the test. -/
def skipWhile (test : Char → Bool) (offset : Nat) : List Char → Cursor
  | [] => ⟨offset, []⟩
  | c :: rest =>
    if test c then skipWhile test (offset + 1) rest else ⟨offset, c :: rest⟩

/-- What lies between two tokens at some point. -/
inductive Gap
  | blank | lineComment | blockComment

/-- What lies between two tokens: has a line ended, is every comment closed, and what follows. -/
structure Trivia where
  lineEnded : Bool
  closed : Bool
  next : Cursor

/-- Skips blanks and comments. In a script the marks of an HTML comment begin a line comment, the
closing mark only at the beginning of a line. -/
def skipTrivia (script : Bool) : Gap → Bool → Nat → List Char → Trivia
  | .blank, ended, offset, '/' :: '/' :: rest =>
    skipTrivia script .lineComment ended (offset + 2) rest
  | .blank, ended, offset, '/' :: '*' :: rest =>
    skipTrivia script .blockComment ended (offset + 2) rest
  | .blank, ended, offset, c :: rest =>
    if isSpace c then skipTrivia script .blank ended (offset + 1) rest
    else if isLineEnd c then skipTrivia script .blank true (offset + 1) rest
    else if script && (['<', '!', '-', '-'].isPrefixOf (c :: rest) ||
        ended && ['-', '-', '>'].isPrefixOf (c :: rest)) then
      skipTrivia script .lineComment ended (offset + 1) rest
    else ⟨ended, true, offset, c :: rest⟩
  | .lineComment, ended, offset, c :: rest =>
    if isLineEnd c then skipTrivia script .blank true (offset + 1) rest
    else skipTrivia script .lineComment ended (offset + 1) rest
  | .blockComment, ended, offset, '*' :: '/' :: rest =>
    skipTrivia script .blank ended (offset + 2) rest
  | .blockComment, ended, offset, c :: rest =>
    skipTrivia script .blockComment (ended || isLineEnd c) (offset + 1) rest
  | .blockComment, ended, offset, [] => ⟨ended, false, offset, []⟩
  | _, ended, offset, [] => ⟨ended, true, offset, []⟩

/-- A word that has been read. -/
structure Word where
  value : List Char
  escaped : Bool
  next : Cursor

/-- May the character follow what is spelled of an identifier so far? -/
def extendsWord (spelled : List Char) (c : Char) : Bool :=
  if spelled.isEmpty then Text.isIdentifierStart c else Text.isIdentifierPart c

/-- Reads the characters of an identifier; `skip` counts the characters of an escape that have been
read already. -/
def readWord (skip : Nat) (offset : Nat) (spelled : List Char) (escaped : Bool) :
    List Char → Option Word
  | [] => some ⟨spelled.reverse, escaped, offset, []⟩
  | c :: rest =>
    if 0 < skip then readWord (skip - 1) (offset + 1) spelled escaped rest
    else if c == '\\' then
      match rest with
      | 'u' :: digits =>
        match unicodeEscape? digits with
        | some (code, read) =>
          let denoted := characterOf code
          if extendsWord spelled denoted then
            readWord (read + 1) (offset + 1) (denoted :: spelled) true rest
          else none
        | none => none
      | _ => none
    else if extendsWord spelled c then
      readWord 0 (offset + 1) (c :: spelled) escaped rest
    else some ⟨spelled.reverse, escaped, offset, c :: rest⟩

/-- A string that has been read. -/
structure StringText where
  value : List Char
  /-- No escape denotes a lone surrogate. -/
  isPaired : Bool
  next : Cursor

/-- Reads a string up to its closing quote. -/
def readString (quote : Char) (skip : Nat) (offset : Nat) (read : List Char) (isPaired : Bool) :
    List Char → Option StringText
  | [] => none
  | c :: rest =>
    if 0 < skip then readString quote (skip - 1) (offset + 1) read isPaired rest
    else if c == quote then some ⟨read.reverse, isPaired, offset + 1, rest⟩
    else if c == '\\' then
      match escape? rest with
      | some found =>
        readString quote found.length (offset + 1) (found.denotes.reverse ++ read)
          (isPaired && found.isPaired) rest
      | none => none
    else if c == '\n' || c == '\r' then none
    else readString quote 0 (offset + 1) (c :: read) isPaired rest

/-- A part of a template that has been read. -/
structure TemplatePart where
  /-- The part ends at an embedded expression. -/
  opens : Bool
  cooked : Bool
  next : Cursor

/-- Reads a part of a template up to the closing mark or the next embedded expression. -/
def readTemplate (skip : Nat) (offset : Nat) (cooked : Bool) : List Char → Option TemplatePart
  | [] => none
  | '$' :: '{' :: rest =>
    if 0 < skip then readTemplate (skip - 1) (offset + 1) cooked ('{' :: rest)
    else some ⟨true, cooked, offset + 2, rest⟩
  | c :: rest =>
    if 0 < skip then readTemplate (skip - 1) (offset + 1) cooked rest
    else if c == '\x60' then some ⟨false, cooked, offset + 1, rest⟩
    else if c == '\\' then
      match escape? rest with
      | some found => readTemplate found.length (offset + 1) (cooked && found.inTemplate) rest
      | none => readTemplate 1 (offset + 1) false rest
    else readTemplate 0 (offset + 1) cooked rest

/-- Reads the body of a regular expression up to the closing slash. -/
def readRegexBody (inClass : Bool) (escaped : Bool) (offset : Nat) : List Char → Option Cursor
  | [] => none
  | c :: rest =>
    let next := offset + 1
    if isLineEnd c then none
    else if escaped then readRegexBody inClass false next rest
    else if c == '/' && !inClass then some ⟨next, rest⟩
    else if c == '\\' then readRegexBody inClass true next rest
    else readRegexBody ((inClass || c == '[') && c != ']') false next rest

/-- Reads digits that single low lines may separate. -/
def readDigits (isDigit : Char → Bool) (offset : Nat) : List Char → Option Cursor
  | [] => some ⟨offset, []⟩
  | '_' :: c :: rest => if isDigit c then readDigits isDigit (offset + 2) rest else none
  | c :: rest =>
    if isDigit c then readDigits isDigit (offset + 1) rest
    else if c == '_' then none else some ⟨offset, c :: rest⟩

/-- Reads at least one digit. -/
def readSomeDigits (isDigit : Char → Bool) (offset : Nat) : List Char → Option Cursor
  | [] => none
  | c :: rest => if isDigit c then readDigits isDigit (offset + 1) rest else none

/-- A number ends where no identifier and no digit follows. -/
def endNumber (token : Token) (here : Cursor) : Option (Token × Cursor) :=
  match here.text with
  | [] => some (token, here)
  | c :: _ => if Text.isIdentifierStart c || c.isDigit then none else some (token, here)

/-- Reads an exponent after its letter. -/
def readExponent (offset : Nat) : List Char → Option Cursor
  | '+' :: rest | '-' :: rest => readSomeDigits Char.isDigit (offset + 1) rest
  | text => readSomeDigits Char.isDigit offset text

/-- Reads an exponent if there is one. -/
def readExponent? (here : Cursor) : Option (Token × Cursor) :=
  match here.text with
  | 'e' :: rest | 'E' :: rest => do endNumber .number (← readExponent (here.offset + 1) rest)
  | _ => endNumber .number here

/-- Reads a fraction after its point, which may have no digits. -/
def readFraction (offset : Nat) (text : List Char) : Option (Token × Cursor) := do
  match text with
  | c :: rest =>
    if c.isDigit then readExponent? (← readDigits Char.isDigit (offset + 1) rest)
    else readExponent? ⟨offset, text⟩
  | [] => readExponent? ⟨offset, text⟩

/-- Reads a number in another base after its two-character mark. -/
def readBased (isDigit : Char → Bool) (offset : Nat) (text : List Char) :
    Option (Token × Cursor) := do
  let digits ← readSomeDigits isDigit offset text
  match digits.text with
  | 'n' :: rest => endNumber .bigint ⟨digits.offset + 1, rest⟩
  | _ => endNumber .number digits

/-- Reads a number with a needless leading zero. With a digit above seven it is decimal and may
have a fraction or an exponent; a word may follow the exponent at once. -/
def readLeadingZero (offset : Nat) (text : List Char) : Option (Token × Cursor) :=
  let digits := skipWhile Char.isDigit offset text
  if (text.takeWhile Char.isDigit).all isOctalDigit then endNumber .number digits
  else
    match digits.text with
    | '.' :: rest => readFraction (digits.offset + 1) rest
    | 'e' :: rest => do return (.number, ← readExponent (digits.offset + 1) rest)
    | _ => endNumber .number digits

/-- Reads the rest of a decimal number after some of its digits. -/
def readDecimal (digits : Cursor) : Option (Token × Cursor) :=
  match digits.text with
  | '.' :: rest => readFraction (digits.offset + 1) rest
  | 'n' :: rest => endNumber .bigint ⟨digits.offset + 1, rest⟩
  | _ => readExponent? digits

/-- Reads a number that begins with a digit. After a zero with an exponent a word may follow at
once. -/
def readNumber (offset : Nat) : List Char → Option (Token × Cursor)
  | '0' :: rest =>
    match rest with
    | 'x' :: more | 'X' :: more => readBased isHexDigit (offset + 2) more
    | 'o' :: more | 'O' :: more => readBased isOctalDigit (offset + 2) more
    | 'b' :: more | 'B' :: more => readBased isBinaryDigit (offset + 2) more
    | 'e' :: more | 'E' :: more => do return (.number, ← readExponent (offset + 2) more)
    | c :: _ =>
      if c.isDigit then readLeadingZero (offset + 1) rest else readDecimal ⟨offset + 1, rest⟩
    | [] => some (.number, ⟨offset + 1, []⟩)
  | text => do readDecimal (← readSomeDigits Char.isDigit offset text)

/-- The punctuator that begins a text, with its length. A closing angle bracket always stands
alone here. -/
def punctuator? : List Char → Option (Token × Nat)
  | '{' :: _ => some (.lbrace, 1)
  | '}' :: _ => some (.rbrace, 1)
  | '(' :: _ => some (.lparen, 1)
  | ')' :: _ => some (.rparen, 1)
  | '[' :: _ => some (.lbrack, 1)
  | ']' :: _ => some (.rbrack, 1)
  | ';' :: _ => some (.semicolon, 1)
  | ',' :: _ => some (.comma, 1)
  | ':' :: _ => some (.colon, 1)
  | '~' :: _ => some (.tilde, 1)
  | '@' :: _ => some (.atSign, 1)
  | '.' :: '.' :: '.' :: _ => some (.ellipsis, 3)
  | '.' :: _ => some (.dot, 1)
  | '?' :: '?' :: '=' :: _ => some (.questionQuestionAssign, 3)
  | '?' :: '?' :: _ => some (.questionQuestion, 2)
  | '?' :: '.' :: c :: _ => if c.isDigit then some (.question, 1) else some (.questionDot, 2)
  | '?' :: '.' :: _ => some (.questionDot, 2)
  | '?' :: _ => some (.question, 1)
  | '<' :: '<' :: '=' :: _ => some (.shiftLeftAssign, 3)
  | '<' :: '<' :: _ => some (.shiftLeft, 2)
  | '<' :: '=' :: _ => some (.lessEq, 2)
  | '<' :: _ => some (.less, 1)
  | '>' :: _ => some (.greater, 1)
  | '=' :: '=' :: '=' :: _ => some (.eqEqEq, 3)
  | '=' :: '=' :: _ => some (.eqEq, 2)
  | '=' :: '>' :: _ => some (.arrow, 2)
  | '=' :: _ => some (.assign, 1)
  | '!' :: '=' :: '=' :: _ => some (.notEqEq, 3)
  | '!' :: '=' :: _ => some (.notEq, 2)
  | '!' :: _ => some (.bang, 1)
  | '+' :: '+' :: _ => some (.plusPlus, 2)
  | '+' :: '=' :: _ => some (.plusAssign, 2)
  | '+' :: _ => some (.plus, 1)
  | '-' :: '-' :: _ => some (.minusMinus, 2)
  | '-' :: '=' :: _ => some (.minusAssign, 2)
  | '-' :: _ => some (.minus, 1)
  | '*' :: '*' :: '=' :: _ => some (.starStarAssign, 3)
  | '*' :: '*' :: _ => some (.starStar, 2)
  | '*' :: '=' :: _ => some (.starAssign, 2)
  | '*' :: _ => some (.star, 1)
  | '/' :: '=' :: _ => some (.slashAssign, 2)
  | '/' :: _ => some (.slash, 1)
  | '%' :: '=' :: _ => some (.percentAssign, 2)
  | '%' :: _ => some (.percent, 1)
  | '&' :: '&' :: '=' :: _ => some (.ampAmpAssign, 3)
  | '&' :: '&' :: _ => some (.ampAmp, 2)
  | '&' :: '=' :: _ => some (.ampAssign, 2)
  | '&' :: _ => some (.amp, 1)
  | '|' :: '|' :: '=' :: _ => some (.barBarAssign, 3)
  | '|' :: '|' :: _ => some (.barBar, 2)
  | '|' :: '=' :: _ => some (.barAssign, 2)
  | '|' :: _ => some (.bar, 1)
  | '^' :: '=' :: _ => some (.caretAssign, 2)
  | '^' :: _ => some (.caret, 1)
  | _ => none

/-- The longest operator that begins with a closing angle bracket, with its length. -/
def angleOperator : List Char → Token × Nat
  | '>' :: '>' :: '>' :: '=' :: _ => (.shiftRightZeroAssign, 4)
  | '>' :: '>' :: '>' :: _ => (.shiftRightZero, 3)
  | '>' :: '>' :: '=' :: _ => (.shiftRightAssign, 3)
  | '>' :: '>' :: _ => (.shiftRight, 2)
  | '>' :: '=' :: _ => (.greaterEq, 2)
  | _ => (.greater, 1)

/-- The lexeme of a token without a value. -/
def plain (token : Token) (start : Nat) (afterLineEnd : Bool) (text : List Char) (next : Cursor) :
    Lexeme :=
  { token, start, stop := next.offset, afterLineEnd, value := [], escaped := false, cooked := true,
    isPaired := true, sound := true, text, rest := next.text }

/-- The lexeme where no token can be read. -/
def broken (start : Nat) (afterLineEnd : Bool) (text : List Char) : Lexeme :=
  { plain .invalid start afterLineEnd text ⟨start, text⟩ with sound := false }

/-- The lexeme of a word, by the class of the word. -/
def ofWord (start : Nat) (afterLineEnd : Bool) (text : List Char) (word : Word) : Lexeme :=
  { plain (Token.ofWord word.value) start afterLineEnd text word.next with
    value := word.value, escaped := word.escaped }

/-- The lexeme of a part of a template. -/
def ofTemplatePart (opening closing : Token) (start : Nat) (afterLineEnd : Bool)
    (text : List Char) (part : TemplatePart) : Lexeme :=
  { plain (if part.opens then opening else closing) start afterLineEnd text part.next with
    cooked := part.cooked }

/-- The token that begins a text, in the plain reading. -/
def read (start : Nat) (afterLineEnd : Bool) (text : List Char) : Lexeme :=
  let fail := broken start afterLineEnd text
  match text with
  | [] => plain .endOfText start afterLineEnd [] ⟨start, []⟩
  | c :: rest =>
    if c == '\x22' || c == '\x27' then
      match readString c 0 (start + 1) [] true rest with
      | some string =>
        { plain .string start afterLineEnd text string.next with
          value := string.value, isPaired := string.isPaired }
      | none => fail
    else if c == '\x60' then
      match readTemplate 0 (start + 1) true rest with
      | some part => ofTemplatePart .templateHead .template start afterLineEnd text part
      | none => fail
    else if c.isDigit then
      match readNumber start text with
      | some (token, next) => plain token start afterLineEnd text next
      | none => fail
    else if c == '.' && rest.head?.any Char.isDigit then
      match readFraction (start + 1) rest with
      | some (token, next) => plain token start afterLineEnd text next
      | none => fail
    else if c == '#' then
      if start == 0 && rest.head? == some '!' then
        plain .hashbang start afterLineEnd text (skipWhile (!isLineEnd ·) start text)
      else
        match readWord 0 (start + 1) [] false rest with
        | some word =>
          if word.value.isEmpty then fail
          else { plain .privateName start afterLineEnd text word.next with value := word.value }
        | none => fail
    else
      match punctuator? text with
      | some (token, length) =>
        plain token start afterLineEnd text ⟨start + length, text.drop length⟩
      | none =>
        match readWord 0 start [] false text with
        | some word => if word.value.isEmpty then fail else ofWord start afterLineEnd text word
        | none => fail

/-- The token after a position, in the plain reading. -/
def next (script : Bool) (here : Cursor) : Lexeme :=
  let trivia := skipTrivia script .blank (here.offset == 0) here.offset here.text
  if trivia.closed then
    { read trivia.next.offset trivia.lineEnded trivia.next.text with }
  else broken trivia.next.offset trivia.lineEnded trivia.next.text

/-- The characters of a lexeme as they stand in the text. -/
def spelling (lexeme : Lexeme) : List Char :=
  lexeme.text.take (lexeme.stop - lexeme.start)

/-- The position after a lexeme. -/
def after (lexeme : Lexeme) : Cursor := ⟨lexeme.stop, lexeme.rest⟩

/-- Are the flags of a regular expression known and each given once? Of the two flags for Unicode
one at most is given. -/
def soundFlags (flags : List Char) : Bool :=
  flags.all ("dgimsuvy".toList.contains ·) && decide flags.Nodup &&
    !(flags.contains 'u' && flags.contains 'v')

/-- Reads a slash as the beginning of a regular expression. -/
def asRegex (slash : Lexeme) : Lexeme :=
  match readRegexBody false false (slash.start + 1) (slash.text.drop 1) with
  | none => broken slash.start slash.afterLineEnd slash.text
  | some body =>
    let isFlag := fun c : Char => c.isAlphanum || c == '$' || c == '_'
    { plain .regex slash.start slash.afterLineEnd slash.text
        (skipWhile isFlag body.offset body.text) with
      sound := soundFlags (body.text.takeWhile isFlag) }

/-- Reads a closing brace as the end of an expression in a template. -/
def asTemplate (brace : Lexeme) : Lexeme :=
  match readTemplate 0 (brace.start + 1) true (brace.text.drop 1) with
  | none => broken brace.start brace.afterLineEnd brace.text
  | some part =>
    ofTemplatePart .templateMiddle .templateTail brace.start brace.afterLineEnd brace.text part

/-- Reads a closing angle bracket as the longest operator it begins. -/
def asAngleOperator (angle : Lexeme) : Lexeme :=
  if angle.token == .greater then
    let (token, length) := angleOperator angle.text
    { angle with token, stop := angle.start + length, rest := angle.text.drop length }
  else angle

/-- Reads an operator that begins with an opening angle bracket as that bracket alone. -/
def asOpenAngle (angle : Lexeme) : Lexeme :=
  if [.shiftLeft, .shiftLeftAssign, .lessEq].contains angle.token then
    { angle with token := .less, stop := angle.start + 1, rest := angle.text.drop 1 }
  else angle

/-- Extends a word by the hyphens and characters that may follow in the name of an element. -/
def asElementName (word : Lexeme) : Lexeme :=
  let more := skipWhile (fun c => c == '-' || Text.isIdentifierPart c) word.stop word.rest
  { word with stop := more.offset, rest := more.text }

/-- Reads an attribute's string, which has no escapes and may span lines. -/
def readAttributeString (start : Nat) (afterLineEnd : Bool) (quote : Char) (text : List Char) :
    Lexeme :=
  let body := skipWhile (· != quote) (start + 1) (text.drop 1)
  match body.text with
  | _ :: rest => plain .string start afterLineEnd text ⟨body.offset + 1, rest⟩
  | [] => broken start afterLineEnd text

/-- The token that begins an attribute's value. -/
def nextAttributeValue (here : Cursor) : Lexeme :=
  let trivia := skipTrivia false .blank false here.offset here.text
  match trivia.next.text with
  | '\x22' :: _ => readAttributeString trivia.next.offset trivia.lineEnded '\x22' trivia.next.text
  | '\x27' :: _ => readAttributeString trivia.next.offset trivia.lineEnded '\x27' trivia.next.text
  | _ => next false here

/-- The token after a position between the tags of an element: a tag, an embedded expression, or
the text up to the next of them. -/
def nextElementChild (here : Cursor) : Lexeme :=
  match here.text with
  | [] => plain .endOfText here.offset false [] here
  | '<' :: rest => plain .less here.offset false here.text ⟨here.offset + 1, rest⟩
  | '{' :: rest => plain .lbrace here.offset false here.text ⟨here.offset + 1, rest⟩
  | text =>
    let body := skipWhile (fun c => !(['<', '{', '>', '}'].contains c)) here.offset text
    match body.text with
    | '>' :: _ | '}' :: _ => broken here.offset false text
    | _ => plain .jsxText here.offset false text body

end Lexeme

end SsrBuild.Grammar
