namespace ManifestLint

namespace Token

/-- The kind of a token. Words end in `Word`; `other` stands for every kind that no rule knows. -/
inductive Kind where
  | name | classRef | variable | bareVariable | typeWord | classWord | defineWord | inheritsWord
  | nodeWord | ifWord | elsifWord | elseWord | unlessWord | caseWord | defaultWord | trueWord
  | falseWord | undefWord | importWord | andWord | orWord | inWord | string | singleQuoted
  | stringHead | stringMiddle | stringTail | number | regex | leftParen | rightParen | leftBrace
  | rightBrace | leftBracket | rightBracket | comma | equals | fatArrow | plusArrow | colon
  | semicolon | dot | questionMark | appends | plus | minus | times | div | modulo | leftShift
  | rightShift | greaterEqual | lessEqual | at | backslash | leftCollect | rightCollect
  | isEqual | notEqual | matches | noMatch | lessThan | greaterThan | not | inEdge | inEdgeSub
  | outEdge | outEdgeSub | whitespace | newline | indent | comment | blockComment | slashComment
  | other
deriving DecidableEq, Repr, Inhabited

namespace Kind

def known : List Kind := [
  .name, .classRef, .variable, .bareVariable, .typeWord, .classWord, .defineWord, .inheritsWord,
  .nodeWord, .ifWord, .elsifWord, .elseWord, .unlessWord, .caseWord, .defaultWord, .trueWord,
  .falseWord, .undefWord, .importWord, .andWord, .orWord, .inWord, .string, .singleQuoted,
  .stringHead, .stringMiddle, .stringTail, .number, .regex, .leftParen, .rightParen, .leftBrace,
  .rightBrace, .leftBracket, .rightBracket, .comma, .equals, .fatArrow, .plusArrow, .colon,
  .semicolon, .dot, .questionMark, .appends, .plus, .minus, .times, .div, .modulo, .leftShift,
  .rightShift, .greaterEqual, .lessEqual, .at, .backslash, .leftCollect, .rightCollect, .isEqual,
  .notEqual, .matches, .noMatch, .lessThan, .greaterThan, .not, .inEdge, .inEdgeSub, .outEdge,
  .outEdgeSub, .whitespace, .newline, .indent, .comment, .blockComment, .slashComment]

def label : Kind → String
  | .name => "NAME"
  | .classRef => "CLASSREF"
  | .variable => "VARIABLE"
  | .bareVariable => "UNENC_VARIABLE"
  | .typeWord => "TYPE"
  | .classWord => "CLASS"
  | .defineWord => "DEFINE"
  | .inheritsWord => "INHERITS"
  | .nodeWord => "NODE"
  | .ifWord => "IF"
  | .elsifWord => "ELSIF"
  | .elseWord => "ELSE"
  | .unlessWord => "UNLESS"
  | .caseWord => "CASE"
  | .defaultWord => "DEFAULT"
  | .trueWord => "TRUE"
  | .falseWord => "FALSE"
  | .undefWord => "UNDEF"
  | .importWord => "IMPORT"
  | .andWord => "AND"
  | .orWord => "OR"
  | .inWord => "IN"
  | .string => "STRING"
  | .singleQuoted => "SSTRING"
  | .stringHead => "DQPRE"
  | .stringMiddle => "DQMID"
  | .stringTail => "DQPOST"
  | .number => "NUMBER"
  | .regex => "REGEX"
  | .leftParen => "LPAREN"
  | .rightParen => "RPAREN"
  | .leftBrace => "LBRACE"
  | .rightBrace => "RBRACE"
  | .leftBracket => "LBRACK"
  | .rightBracket => "RBRACK"
  | .comma => "COMMA"
  | .equals => "EQUALS"
  | .fatArrow => "FARROW"
  | .plusArrow => "PARROW"
  | .colon => "COLON"
  | .semicolon => "SEMIC"
  | .dot => "DOT"
  | .questionMark => "QMARK"
  | .appends => "APPENDS"
  | .plus => "PLUS"
  | .minus => "MINUS"
  | .times => "TIMES"
  | .div => "DIV"
  | .modulo => "MODULO"
  | .leftShift => "LSHIFT"
  | .rightShift => "RSHIFT"
  | .greaterEqual => "GREATEREQUAL"
  | .lessEqual => "LESSEQUAL"
  | .at => "AT"
  | .backslash => "BACKSLASH"
  | .leftCollect => "LCOLLECT"
  | .rightCollect => "RCOLLECT"
  | .isEqual => "ISEQUAL"
  | .notEqual => "NOTEQUAL"
  | .matches => "MATCH"
  | .noMatch => "NOMATCH"
  | .lessThan => "LESSTHAN"
  | .greaterThan => "GREATERTHAN"
  | .not => "NOT"
  | .inEdge => "IN_EDGE"
  | .inEdgeSub => "IN_EDGE_SUB"
  | .outEdge => "OUT_EDGE"
  | .outEdgeSub => "OUT_EDGE_SUB"
  | .whitespace => "WHITESPACE"
  | .newline => "NEWLINE"
  | .indent => "INDENT"
  | .comment => "COMMENT"
  | .blockComment => "MLCOMMENT"
  | .slashComment => "SLASH_COMMENT"
  | .other => "OTHER"

def ofLabel (s : String) : Kind := (known.find? fun k ↦ k.label == s).getD .other

def isFormatting : Kind → Bool
  | .whitespace | .newline | .indent | .comment | .blockComment | .slashComment => true
  | _ => false

@[simp]
theorem ofLabel_label (k : Kind) : ofLabel k.label = k := by
  cases k <;> decide +kernel

end Kind

end Token

/-- A token. Lines and columns count from one and are 64-bit words, as dumps carry them. -/
structure Token where
  kind : Token.Kind
  text : String
  line : UInt64
  column : UInt64
deriving DecidableEq, Repr, Inhabited

namespace Token

def isFormatting (t : Token) : Bool := t.kind.isFormatting

def isSignificant (t : Token) : Bool := !t.isFormatting

/-- The name of a variable, which may be written with or without its leading `$`. -/
def variableName (t : Token) : String :=
  match t.text.toList with
  | '$' :: name => String.ofList name
  | _ => t.text

end Token

namespace Token.Stream

def kindAt (tokens : List Token) (i : Nat) : Option Kind := tokens[i]?.map (·.kind)

def nextKind (tokens : List Token) (i : Nat) : Option Kind := kindAt tokens (i + 1)

def prevKind (tokens : List Token) : Nat → Option Kind
  | 0 => none
  | i + 1 => kindAt tokens i

def nextSignificant (tokens : List Token) (i : Nat) : Option Nat :=
  ((tokens.drop (i + 1)).findIdx? isSignificant).map (· + (i + 1))

def slice (tokens : List Token) (first last : Nat) : List Token :=
  (tokens.drop first).take (last + 1 - first)

def significant (tokens : List Token) (first last : Nat) : List Token :=
  (slice tokens first last).filter isSignificant

end Token.Stream

inductive Delimiter where
  | paren | brace | bracket
deriving DecidableEq, Repr

namespace Delimiter

open Token

def opener : Delimiter → Kind
  | .paren => .leftParen
  | .brace => .leftBrace
  | .bracket => .leftBracket

def closer : Delimiter → Kind
  | .paren => .rightParen
  | .brace => .rightBrace
  | .bracket => .rightBracket

def label : Delimiter → String
  | .paren => "Paren"
  | .brace => "Brace"
  | .bracket => "Bracket"

inductive Imbalance where
  | notAnOpener (index : Nat) (delimiter : Delimiter)
  | neverClosed (index : Nat) (delimiter : Delimiter)
deriving DecidableEq, Repr

def Imbalance.message : Imbalance → String
  | .notAnOpener i d => s!"token {i} is not an opening {d.label}"
  | .neverClosed i d => s!"{d.label} opened at token {i} is never closed"

/-- The index of the token that closes the last of `depth` open pairs, in a stream whose first token
has index `i`. Other delimiters are passed over. -/
def closeFrom (d : Delimiter) (depth i : Nat) : List Token → Option Nat
  | [] => none
  | t :: rest =>
    if t.kind = d.opener then closeFrom d (depth + 1) (i + 1) rest
    else if t.kind = d.closer then
      if depth ≤ 1 then some i else closeFrom d (depth - 1) (i + 1) rest
    else closeFrom d depth (i + 1) rest

def matchingClose (d : Delimiter) (tokens : List Token) (i : Nat) : Except Imbalance Nat :=
  if Stream.kindAt tokens i = some d.opener then
    match closeFrom d 0 i (tokens.drop i) with
    | some close => .ok close
    | none => .error (.neverClosed i d)
  else .error (.notAnOpener i d)

end Delimiter

end ManifestLint
