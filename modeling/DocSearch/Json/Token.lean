import DocSearch.Json.Number
import DocSearch.Text.Hexadecimal

/-!
# Tokens of a JSON text

`tokens?` splits a text into punctuation, words, number literals and quoted strings.  A quoted
string is kept as the units it is written with, and `StringUnit.decode?` turns them into a text
where the escaped UTF-16 code units form characters.
-/

namespace DocSearch.Json

/-- A unit of a quoted string: a character, or an escaped UTF-16 code unit. -/
inductive StringUnit where
  | char (c : Char)
  | escaped (code : Nat)
deriving DecidableEq, Repr

namespace StringUnit

/-- The characters of a quoted string.  A code unit of the surrogate range counts only as the first
half of a pair together with the second half after it. -/
def decode? : List StringUnit → Option (List Char)
  | [] => some []
  | .char c :: rest => (decode? rest).map (c :: ·)
  | .escaped code :: rest =>
    if 0xDC00 ≤ code ∧ code ≤ 0xDFFF then none
    else if 0xD800 ≤ code ∧ code ≤ 0xDBFF then
      match rest with
      | .escaped low :: rest =>
        if 0xDC00 ≤ low ∧ low ≤ 0xDFFF then
          (decode? rest).map
            (Char.ofNat (0x10000 + (code - 0xD800) * 0x400 + (low - 0xDC00)) :: ·)
        else none
      | _ => none
    else (decode? rest).map (Char.ofNat code :: ·)

end StringUnit

/-- A token of a JSON text. -/
inductive Token where
  | openObject
  | closeObject
  | openArray
  | closeArray
  | colon
  | comma
  | null
  | bool (b : Bool)
  | number (l : NumberLiteral)
  | string (units : List StringUnit)
deriving DecidableEq, Repr

/-- The place between or inside tokens that a lexer has reached.  Runs and units are held with the
last one first. -/
inductive LexState where
  | between
  | word (run : List Char)
  | number (run : List Char)
  | string (units : List StringUnit)
  | escape (units : List StringUnit)
  | codeUnit (units : List StringUnit) (digitsLeft code : Nat)
deriving DecidableEq, Repr

/-- A lexer: the tokens it has read, the last one first, and the place it has reached. -/
structure Lexer where
  tokens : List Token
  state : LexState
deriving DecidableEq, Repr

namespace Lexer

/-- The lexer at the start of a text. -/
def start : Lexer := ⟨[], .between⟩

/-- A blank between tokens: space, tab, line feed or carriage return. -/
def isBlank (c : Char) : Bool := c == ' ' || c == '\t' || c == '\n' || c == '\r'

/-- A character that a number literal may hold. -/
def isNumberChar (c : Char) : Bool :=
  c.isDigit || c == '-' || c == '+' || c == '.' || c == 'e' || c == 'E'

/-- The token that a word is. -/
def wordToken? : List Char → Option Token
  | ['n', 'u', 'l', 'l'] => some .null
  | ['t', 'r', 'u', 'e'] => some (.bool true)
  | ['f', 'a', 'l', 's', 'e'] => some (.bool false)
  | _ => none

/-- The lexer between tokens with one more token. -/
def emit (tokens : List Token) (token : Token) : Lexer := ⟨token :: tokens, .between⟩

/-- The lexer between tokens after reading the first character of a token, or a blank. -/
def begin? (tokens : List Token) (c : Char) : Option Lexer :=
  if isBlank c then some ⟨tokens, .between⟩
  else if c = '\x7b' then some (emit tokens .openObject)
  else if c = '\x7d' then some (emit tokens .closeObject)
  else if c = '[' then some (emit tokens .openArray)
  else if c = ']' then some (emit tokens .closeArray)
  else if c = ':' then some (emit tokens .colon)
  else if c = ',' then some (emit tokens .comma)
  else if c = '"' then some ⟨tokens, .string []⟩
  else if c = '-' ∨ c.isDigit then some ⟨tokens, .number [c]⟩
  else if c.isLower then some ⟨tokens, .word [c]⟩
  else none

/-- The tokens after the end of a word or number. -/
def finishRun? (tokens : List Token) : LexState → Option (List Token)
  | .between => some tokens
  | .word run => (wordToken? run.reverse).map (· :: tokens)
  | .number run => (NumberLiteral.ofChars? run.reverse).map fun l => .number l :: tokens
  | _ => none

/-- The character that stands after a backslash for another one. -/
def escaped? (c : Char) : Option Char :=
  if c = '"' ∨ c = '\\' ∨ c = '/' then some c
  else if c = 'b' then some '\x08'
  else if c = 'f' then some '\x0c'
  else if c = 'n' then some '\n'
  else if c = 'r' then some '\r'
  else if c = 't' then some '\t'
  else none

/-- The lexer after one more character. -/
def step? (lexer : Lexer) (c : Char) : Option Lexer :=
  match lexer.state with
  | .between => begin? lexer.tokens c
  | .word run =>
    if c.isLower then some ⟨lexer.tokens, .word (c :: run)⟩
    else (finishRun? lexer.tokens (.word run)).bind (begin? · c)
  | .number run =>
    if isNumberChar c then some ⟨lexer.tokens, .number (c :: run)⟩
    else (finishRun? lexer.tokens (.number run)).bind (begin? · c)
  | .string units =>
    if c = '"' then some (emit lexer.tokens (.string units.reverse))
    else if c = '\\' then some ⟨lexer.tokens, .escape units⟩
    else if c.toNat < 0x20 then none
    else some ⟨lexer.tokens, .string (.char c :: units)⟩
  | .escape units =>
    if c = 'u' then some ⟨lexer.tokens, .codeUnit units 4 0⟩
    else (escaped? c).map fun d => ⟨lexer.tokens, .string (.char d :: units)⟩
  | .codeUnit units digitsLeft code =>
    (Text.hexValue? c).map fun d =>
      if digitsLeft ≤ 1 then ⟨lexer.tokens, .string (.escaped (16 * code + d) :: units)⟩
      else ⟨lexer.tokens, .codeUnit units (digitsLeft - 1) (16 * code + d)⟩

/-- The tokens at the end of a text, in the order of the text. -/
def finish? (lexer : Lexer) : Option (List Token) :=
  (finishRun? lexer.tokens lexer.state).map List.reverse

end Lexer

/-- The tokens of a text. -/
def tokens? (text : List Char) : Option (List Token) :=
  (text.foldlM Lexer.step? Lexer.start).bind Lexer.finish?

end DocSearch.Json
