/-! The kinds of token and their names. -/

set_option autoImplicit false

namespace ScriptLex

/-- What a token is. `ignored` marks text that is read and then left out. -/
inductive Kind where
  | semicolon | comma | assign | leftBrace | rightBrace | leftParen | rightParen
  | multiply | add | subtract | not | and | or | divide
  | lessThan | lessEqual | greaterThan | greaterEqual | equivalent | notEqual
  | number | string | trueWord | falseWord | nullWord | identifier
  | ifWord | elseWord | forWord | whileWord | funWord | returnWord | varWord | printWord
  | ignored
  deriving DecidableEq, Repr

namespace Kind

def all : List Kind :=
  [semicolon, comma, assign, leftBrace, rightBrace, leftParen, rightParen,
   multiply, add, subtract, not, and, or, divide,
   lessThan, lessEqual, greaterThan, greaterEqual, equivalent, notEqual,
   number, string, trueWord, falseWord, nullWord, identifier,
   ifWord, elseWord, forWord, whileWord, funWord, returnWord, varWord, printWord,
   ignored]

theorem mem_all (kind : Kind) : kind ∈ all := by cases kind <;> decide

def name : Kind → String
  | semicolon => "SEMICOLON"
  | comma => "COMMA"
  | assign => "ASSIGN"
  | leftBrace => "LEFT_BRACE"
  | rightBrace => "RIGHT_BRACE"
  | leftParen => "LEFT_PAREN"
  | rightParen => "RIGHT_PAREN"
  | multiply => "MULTIPLY"
  | add => "ADD"
  | subtract => "SUBTRACT"
  | not => "NOT"
  | and => "AND"
  | or => "OR"
  | divide => "DIVIDE"
  | lessThan => "LESS_THAN"
  | lessEqual => "LESS_EQUAL"
  | greaterThan => "GREATER_THAN"
  | greaterEqual => "GREATER_EQUAL"
  | equivalent => "EQUIVALENT"
  | notEqual => "NOT_EQUAL"
  | number => "NUMBER"
  | string => "STRING"
  | trueWord => "TRUE"
  | falseWord => "FALSE"
  | nullWord => "NULL"
  | identifier => "IDENTIFIER"
  | ifWord => "IF"
  | elseWord => "ELSE"
  | forWord => "FOR"
  | whileWord => "WHILE"
  | funWord => "FUN"
  | returnWord => "RETURN"
  | varWord => "VAR"
  | printWord => "PRINT"
  | ignored => "IGNORE"

def ofName? (name : String) : Option Kind := all.find? (·.name == name)

end Kind

end ScriptLex
