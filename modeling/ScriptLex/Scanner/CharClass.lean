/-! The character classes of the lexical grammar. All of them are sets of ASCII characters. -/

set_option autoImplicit false

namespace ScriptLex.Scanner

def isDigit (c : Char) : Bool := '0' ≤ c && c ≤ '9'

def isLetter (c : Char) : Bool := ('a' ≤ c && c ≤ 'z') || ('A' ≤ c && c ≤ 'Z')

-- A number may begin with its decimal point.
def isNumberStart (c : Char) : Bool := isDigit c || c == '.'

-- Separators that stay on the line.
def isBlank (c : Char) : Bool := c == ' ' || c == '\r'

def isSeparator (c : Char) : Bool := isBlank c || c == '\n'

/-- What may stand between the quotes of a string. -/
def isStringBody (c : Char) : Bool := c != '"' && c != '\n'

end ScriptLex.Scanner
