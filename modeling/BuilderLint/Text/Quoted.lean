import BuilderLint.Text.Hidden

/-! Quoted texts.

Messages show a text between double quotes so that it can be told apart from the
words around it. The quote and the backslash are escaped, the usual control
characters have short escapes, and every other character that does not show is
written by its code point. -/
namespace BuilderLint.Text

/-- How one character stands inside the quotes. -/
def quoteChar (c : Char) : List Char :=
  match c with
  | '"' => ['\\', '"']
  | '\\' => ['\\', '\\']
  | '\n' => ['\\', 'n']
  | '\t' => ['\\', 't']
  | '\r' => ['\\', 'r']
  | '\x00' => ['\\', '0']
  | c =>
    if 0x20 ≤ c.toNat && c.toNat < 0x7F then [c]
    else if isHidden c then ['\\', 'u', '\x7b'] ++ Nat.toDigits 16 c.toNat ++ ['\x7d']
    else [c]

/-- A text between double quotes. -/
def quoted (s : String) : String :=
  String.ofList ('"' :: s.toList.flatMap quoteChar ++ ['"'])

def singleQuote : Char := Char.ofNat 0x27

/-- A path between double quotes; single quotes are escaped as well. -/
def quotedPath (s : String) : String :=
  let chars (c : Char) : List Char := if c == singleQuote then ['\\', c] else quoteChar c
  String.ofList ('"' :: s.toList.flatMap chars ++ ['"'])

end BuilderLint.Text
