/-!
The tokens of the grammar. A token says only what it is; where it stands and what it spells is kept
by whoever reads it. Words fall into three classes: reserved words, words reserved in strict code,
and words that have a meaning in some places and are identifiers in all others.
-/

set_option autoImplicit false

namespace SsrBuild.Grammar

/-- The kinds of token. A word that no rule of the grammar names is a `name`. -/
inductive Token
  | endOfText | invalid | hashbang | name | privateName
  | string | number | bigint | regex | template | templateHead | templateMiddle | templateTail
  | jsxText
  | lbrace | rbrace | lparen | rparen | lbrack | rbrack | dot | ellipsis | semicolon | comma
  | colon | question | questionDot | arrow | atSign
  | less | lessEq | greater | greaterEq | eqEq | notEq | eqEqEq | notEqEq | plus | minus | star
  | slash | percent | starStar | plusPlus | minusMinus | shiftLeft | shiftRight | shiftRightZero
  | amp | bar | caret | bang | tilde | ampAmp | barBar | questionQuestion
  | assign | plusAssign | minusAssign | starAssign | slashAssign | percentAssign
  | starStarAssign | shiftLeftAssign | shiftRightAssign | shiftRightZeroAssign | ampAssign
  | barAssign | caretAssign | ampAmpAssign | barBarAssign | questionQuestionAssign
  | kwAwait | kwBreak | kwCase | kwCatch | kwClass | kwConst | kwContinue | kwDebugger
  | kwDefault | kwDelete | kwDo | kwElse | kwEnum | kwExport | kwExtends | kwFalse | kwFinally
  | kwFor | kwFunction | kwIf | kwImport | kwIn | kwInstanceof | kwNew | kwNull | kwReturn
  | kwSuper | kwSwitch | kwThis | kwThrow | kwTrue | kwTry | kwTypeof | kwVar | kwVoid | kwWhile
  | kwWith | kwYield
  | kwImplements | kwInterface | kwLet | kwPackage | kwPrivate | kwProtected | kwPublic
  | kwStatic
  | kwAbstract | kwAccessor | kwAny | kwAs | kwAssert | kwAsserts | kwAsync | kwBigint
  | kwBoolean | kwConstructor | kwDeclare | kwDefer | kwFrom | kwGet | kwGlobal | kwInfer
  | kwIntrinsic | kwIs
  | kwKeyof | kwMeta | kwModule | kwNamespace | kwNever | kwNumber | kwObject | kwOf | kwOut
  | kwOverride | kwReadonly | kwRequire | kwSatisfies | kwSet | kwSource | kwString | kwSymbol
  | kwTarget | kwType | kwUndefined | kwUnique | kwUnknown | kwUsing
  deriving DecidableEq, Repr, Inhabited

namespace Token

/-- The spellings of the reserved words. -/
def reservedWords : List (List Char × Token) :=
  [(['a', 'w', 'a', 'i', 't'], .kwAwait), (['b', 'r', 'e', 'a', 'k'], .kwBreak),
    (['c', 'a', 's', 'e'], .kwCase), (['c', 'a', 't', 'c', 'h'], .kwCatch),
    (['c', 'l', 'a', 's', 's'], .kwClass), (['c', 'o', 'n', 's', 't'], .kwConst),
    (['c', 'o', 'n', 't', 'i', 'n', 'u', 'e'], .kwContinue),
    (['d', 'e', 'b', 'u', 'g', 'g', 'e', 'r'], .kwDebugger),
    (['d', 'e', 'f', 'a', 'u', 'l', 't'], .kwDefault),
    (['d', 'e', 'l', 'e', 't', 'e'], .kwDelete), (['d', 'o'], .kwDo),
    (['e', 'l', 's', 'e'], .kwElse), (['e', 'n', 'u', 'm'], .kwEnum),
    (['e', 'x', 'p', 'o', 'r', 't'], .kwExport),
    (['e', 'x', 't', 'e', 'n', 'd', 's'], .kwExtends), (['f', 'a', 'l', 's', 'e'], .kwFalse),
    (['f', 'i', 'n', 'a', 'l', 'l', 'y'], .kwFinally), (['f', 'o', 'r'], .kwFor),
    (['f', 'u', 'n', 'c', 't', 'i', 'o', 'n'], .kwFunction), (['i', 'f'], .kwIf),
    (['i', 'm', 'p', 'o', 'r', 't'], .kwImport), (['i', 'n'], .kwIn),
    (['i', 'n', 's', 't', 'a', 'n', 'c', 'e', 'o', 'f'], .kwInstanceof),
    (['n', 'e', 'w'], .kwNew), (['n', 'u', 'l', 'l'], .kwNull),
    (['r', 'e', 't', 'u', 'r', 'n'], .kwReturn), (['s', 'u', 'p', 'e', 'r'], .kwSuper),
    (['s', 'w', 'i', 't', 'c', 'h'], .kwSwitch), (['t', 'h', 'i', 's'], .kwThis),
    (['t', 'h', 'r', 'o', 'w'], .kwThrow), (['t', 'r', 'u', 'e'], .kwTrue),
    (['t', 'r', 'y'], .kwTry), (['t', 'y', 'p', 'e', 'o', 'f'], .kwTypeof),
    (['v', 'a', 'r'], .kwVar), (['v', 'o', 'i', 'd'], .kwVoid),
    (['w', 'h', 'i', 'l', 'e'], .kwWhile), (['w', 'i', 't', 'h'], .kwWith),
    (['y', 'i', 'e', 'l', 'd'], .kwYield)]

/-- The spellings of the words reserved in strict code. -/
def strictWords : List (List Char × Token) :=
  [(['i', 'm', 'p', 'l', 'e', 'm', 'e', 'n', 't', 's'], .kwImplements),
    (['i', 'n', 't', 'e', 'r', 'f', 'a', 'c', 'e'], .kwInterface), (['l', 'e', 't'], .kwLet),
    (['p', 'a', 'c', 'k', 'a', 'g', 'e'], .kwPackage),
    (['p', 'r', 'i', 'v', 'a', 't', 'e'], .kwPrivate),
    (['p', 'r', 'o', 't', 'e', 'c', 't', 'e', 'd'], .kwProtected),
    (['p', 'u', 'b', 'l', 'i', 'c'], .kwPublic), (['s', 't', 'a', 't', 'i', 'c'], .kwStatic)]

/-- The spellings of the words with a meaning in some places only. -/
def contextualWords : List (List Char × Token) :=
  [(['a', 'b', 's', 't', 'r', 'a', 'c', 't'], .kwAbstract),
    (['a', 'c', 'c', 'e', 's', 's', 'o', 'r'], .kwAccessor), (['a', 'n', 'y'], .kwAny),
    (['a', 's'], .kwAs), (['a', 's', 's', 'e', 'r', 't'], .kwAssert),
    (['a', 's', 's', 'e', 'r', 't', 's'], .kwAsserts), (['a', 's', 'y', 'n', 'c'], .kwAsync),
    (['b', 'i', 'g', 'i', 'n', 't'], .kwBigint),
    (['b', 'o', 'o', 'l', 'e', 'a', 'n'], .kwBoolean),
    (['c', 'o', 'n', 's', 't', 'r', 'u', 'c', 't', 'o', 'r'], .kwConstructor),
    (['d', 'e', 'c', 'l', 'a', 'r', 'e'], .kwDeclare), (['d', 'e', 'f', 'e', 'r'], .kwDefer),
    (['f', 'r', 'o', 'm'], .kwFrom), (['g', 'e', 't'], .kwGet),
    (['g', 'l', 'o', 'b', 'a', 'l'], .kwGlobal), (['i', 'n', 'f', 'e', 'r'], .kwInfer),
    (['i', 'n', 't', 'r', 'i', 'n', 's', 'i', 'c'], .kwIntrinsic), (['i', 's'], .kwIs),
    (['k', 'e', 'y', 'o', 'f'], .kwKeyof), (['m', 'e', 't', 'a'], .kwMeta),
    (['m', 'o', 'd', 'u', 'l', 'e'], .kwModule),
    (['n', 'a', 'm', 'e', 's', 'p', 'a', 'c', 'e'], .kwNamespace),
    (['n', 'e', 'v', 'e', 'r'], .kwNever), (['n', 'u', 'm', 'b', 'e', 'r'], .kwNumber),
    (['o', 'b', 'j', 'e', 'c', 't'], .kwObject), (['o', 'f'], .kwOf), (['o', 'u', 't'], .kwOut),
    (['o', 'v', 'e', 'r', 'r', 'i', 'd', 'e'], .kwOverride),
    (['r', 'e', 'a', 'd', 'o', 'n', 'l', 'y'], .kwReadonly),
    (['r', 'e', 'q', 'u', 'i', 'r', 'e'], .kwRequire),
    (['s', 'a', 't', 'i', 's', 'f', 'i', 'e', 's'], .kwSatisfies), (['s', 'e', 't'], .kwSet),
    (['s', 'o', 'u', 'r', 'c', 'e'], .kwSource), (['s', 't', 'r', 'i', 'n', 'g'], .kwString),
    (['s', 'y', 'm', 'b', 'o', 'l'], .kwSymbol), (['t', 'a', 'r', 'g', 'e', 't'], .kwTarget),
    (['t', 'y', 'p', 'e'], .kwType),
    (['u', 'n', 'd', 'e', 'f', 'i', 'n', 'e', 'd'], .kwUndefined),
    (['u', 'n', 'i', 'q', 'u', 'e'], .kwUnique),
    (['u', 'n', 'k', 'n', 'o', 'w', 'n'], .kwUnknown), (['u', 's', 'i', 'n', 'g'], .kwUsing)]

/-- The token of a word. -/
def ofWord (word : List Char) : Token :=
  match (reservedWords ++ strictWords ++ contextualWords).lookup word with
  | some token => token
  | none => .name

/-- Is the token one of the words that the grammar names? -/
def isKeyword (token : Token) : Bool :=
  (reservedWords ++ strictWords ++ contextualWords).any (·.2 == token)

/-- May the token serve as an identifier everywhere? -/
def isIdentifier (token : Token) : Bool :=
  token == .name || strictWords.any (·.2 == token) || contextualWords.any (·.2 == token)

/-- May the token be bound as an identifier, where `await` and `yield` have no meaning? -/
def isBindingIdentifier (token : Token) : Bool :=
  token == .kwAwait || token == .kwYield || token.isIdentifier

/-- Is the token any word at all? -/
def isIdentifierName (token : Token) : Bool :=
  token == .name || token.isKeyword

/-- Is the token an assignment operator? -/
def isAssignment (token : Token) : Bool :=
  [assign, plusAssign, minusAssign, starAssign, slashAssign, percentAssign, starStarAssign,
    shiftLeftAssign, shiftRightAssign, shiftRightZeroAssign, ampAssign, barAssign, caretAssign,
    ampAmpAssign, barBarAssign, questionQuestionAssign].contains token

/-- How tightly a binary operator binds; `none` for any other token. The type operators `as` and
`satisfies` bind like comparisons. -/
def precedence : Token → Option Nat
  | questionQuestion => some 1
  | barBar => some 2
  | ampAmp => some 3
  | bar => some 4
  | caret => some 5
  | amp => some 6
  | eqEq | notEq | eqEqEq | notEqEq => some 7
  | less | greater | lessEq | greaterEq | kwInstanceof | kwIn | kwAs | kwSatisfies => some 8
  | shiftLeft | shiftRight | shiftRightZero => some 9
  | plus | minus => some 10
  | star | slash | percent => some 11
  | starStar => some 12
  | _ => none

/-- Is the token a binary operator that joins truth values? -/
def isLogical : Token → Bool
  | questionQuestion | barBar | ampAmp => true
  | _ => false

/-- Is the token an operator written before its operand? -/
def isUnary : Token → Bool
  | plus | minus | bang | tilde | kwDelete | kwVoid | kwTypeof => true
  | _ => false

/-- Is the token `++` or `--`? -/
def isUpdate : Token → Bool
  | plusPlus | minusMinus => true
  | _ => false

/-- Is the token a literal that may name a property? -/
def isLiteralName : Token → Bool
  | string | number | bigint => true
  | _ => false

/-- Is the token a word that may modify a declaration or a member? -/
def isModifier : Token → Bool
  | kwAbstract | kwAccessor | kwAsync | kwConst | kwDeclare | kwDefault | kwExport | kwIn | kwOut
  | kwOverride | kwPrivate | kwProtected | kwPublic | kwReadonly | kwStatic => true
  | _ => false

end Token

end SsrBuild.Grammar
