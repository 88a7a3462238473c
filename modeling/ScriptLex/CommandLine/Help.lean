import ScriptLex.CommandLine.Basic

/-! The texts that describe the command line. -/

set_option autoImplicit false

namespace ScriptLex.CommandLine

def shownVariable (lookup : Variables) (name : String) : String :=
  "[env: " ++ name ++ "=" ++ (lookup name).getD "" ++ "]"

def version : String := "spartie 0.1.0\n"

def about : String :=
  "Print the tokens of a Spartie source file\n\nUsage: spartie [OPTIONS] <FILE>\n\n"

def summary (lookup : Variables) : String :=
  let env := shownVariable lookup
  about ++
  "Arguments:\n" ++
  "  <FILE>  Source file to scan\n" ++
  "\n" ++
  "Options:\n" ++
  "  -v, --verbose              Enable verbose output " ++ env verboseVariable ++ "\n" ++
  "  -c, --config <CONFIG>      Path to configuration file " ++ env configVariable ++ "\n" ++
  "      --no-color             Disable color output " ++ env noColorVariable ++ "\n" ++
  "  -f, --format <FORMAT>      Output format (default: from config, else text) " ++
    "[possible values: text, json]\n" ++
  "      --encoding <ENCODING>  Source encoding (default: from config, else utf-8) " ++
    "[possible values: utf-8, latin-1]\n" ++
  "  -h, --help                 Print help (see more with '--help')\n" ++
  "  -V, --version              Print version\n"

def help (lookup : Variables) : String :=
  let env (name : String) := "          \n          " ++ shownVariable lookup name ++ "\n\n"
  about ++
  "Arguments:\n" ++
  "  <FILE>\n" ++
  "          Source file to scan\n" ++
  "\n" ++
  "Options:\n" ++
  "  -v, --verbose\n" ++
  "          Enable verbose output\n" ++ env verboseVariable ++
  "  -c, --config <CONFIG>\n" ++
  "          Path to configuration file\n" ++ env configVariable ++
  "      --no-color\n" ++
  "          Disable color output\n" ++ env noColorVariable ++
  "  -f, --format <FORMAT>\n" ++
  "          Output format (default: from config, else text)\n" ++
  "\n" ++
  "          Possible values:\n" ++
  "          - text: One `[line N] KIND lexeme` line per token\n" ++
  "          - json: A JSON array of `\x7bkind, lexeme, line\x7d` objects\n" ++
  "\n" ++
  "      --encoding <ENCODING>\n" ++
  "          Source encoding (default: from config, else utf-8)\n" ++
  "\n" ++
  "          Possible values:\n" ++
  "          - utf-8:   Strict UTF-8; invalid input is an error\n" ++
  "          - latin-1: ISO-8859-1; every byte maps to the code point of the same value\n" ++
  "\n" ++
  "  -h, --help\n" ++
  "          Print help (see a summary with '-h')\n" ++
  "\n" ++
  "  -V, --version\n" ++
  "          Print version\n"

end ScriptLex.CommandLine
