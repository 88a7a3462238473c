import ScriptLex.Token.Kind

/-! The part of the lexical grammar that is a matter of look-up: one-character symbols and reserved
words. -/

set_option autoImplicit false

namespace ScriptLex

/-- Symbols and reserved words with their kinds. Of two entries for one key the later counts. -/
structure Vocabulary where
  symbols : List (Char × Kind)
  words : List (String × Kind)
  deriving DecidableEq, Repr

namespace Vocabulary

def symbol? (vocabulary : Vocabulary) (c : Char) : Option Kind :=
  vocabulary.symbols.reverse.lookup c

def word? (vocabulary : Vocabulary) (word : String) : Option Kind :=
  vocabulary.words.reverse.lookup word

def standard : Vocabulary where
  symbols :=
    [(';', .semicolon), (',', .comma), ('=', .assign), ('{', .leftBrace), ('}', .rightBrace),
     ('(', .leftParen), (')', .rightParen), ('*', .multiply), ('+', .add), ('-', .subtract),
     ('!', .not), ('&', .and), ('|', .or)]
  words :=
    [("if", .ifWord), ("else", .elseWord), ("for", .forWord), ("while", .whileWord),
     ("true", .trueWord), ("false", .falseWord), ("fun", .funWord), ("return", .returnWord),
     ("var", .varWord), ("print", .printWord), ("null", .nullWord)]

end Vocabulary

end ScriptLex
