/-! Terminal styles.

A styled text starts with an escape sequence and ends with the one that resets the
terminal. Where the text itself resets the terminal, the style is set again. -/
namespace BuilderLint

/-- The codes of a style, in the order in which they are written. -/
structure Style where
  codes : List Nat

namespace Style

def dimmed : Style := ⟨[2]⟩
def bold : Style := ⟨[1]⟩
def boldCyan : Style := ⟨[1, 36]⟩
def red : Style := ⟨[31]⟩
def green : Style := ⟨[32]⟩
def yellow : Style := ⟨[33]⟩
def blue : Style := ⟨[34]⟩

def escapeChar : Char := '\x1b'

def reset : List Char := [escapeChar, '[', '0', 'm']

def opening (s : Style) : List Char :=
  [escapeChar, '['] ++ (";".intercalate (s.codes.map toString)).toList ++ ['m']

/-- The text with the style set again behind every reset. -/
def keepOpen (s : Style) : List Char → List Char
  | '\x1b' :: '[' :: '0' :: 'm' :: rest => reset ++ s.opening ++ s.keepOpen rest
  | c :: rest => c :: s.keepOpen rest
  | [] => []

/-- Blanks behind a text, up to a width. -/
def pad (width : Nat) (text : List Char) : List Char :=
  text ++ List.replicate (width - text.length) ' '

/-- A text in a style, filled up to a width, if there are colours at all. -/
def paintTo (s : Style) (width : Nat) (colours : Bool) (text : String) : String :=
  String.ofList <|
    if colours then s.opening ++ pad width (s.keepOpen text.toList) ++ reset
    else pad width text.toList

/-- A text in a style, if there are colours at all. -/
def paint (s : Style) (colours : Bool) (text : String) : String := s.paintTo 0 colours text

/-! ### Whether there are colours -/

/-- What the environment says about colours. -/
structure Wish where
  force : Option String
  never : Option String
  usual : Option String

/-- Colours can be forced or forbidden; else they are for a terminal, unless switched off. -/
def Wish.shown (w : Wish) (terminal : Bool) : Bool :=
  if w.force.any (· != "0") then true
  else if w.never.isSome then false
  else w.usual.all (· != "0") && terminal

end Style
end BuilderLint
