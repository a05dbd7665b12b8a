import GridDiffusion.Json.Numeral
import GridDiffusion.Json.Spelling
/-! Tokens of a document, read byte by byte. Strings and numerals keep their spelling, and what is
no token at all becomes `junk`, so reading tokens never fails. -/
namespace GridDiffusion.Json

inductive Token
  | openObject
  | closeObject
  | openArray
  | closeArray
  | colon
  | comma
  | null
  | bool (value : Bool)
  | number (numeral : Numeral)
  | text (spelling : Spelling)
  | junk
deriving DecidableEq

namespace Token

def punctuation? (byte : UInt8) : Option Token :=
  match Char.ofNat byte.toNat with
  | '{' => some openObject
  | '}' => some closeObject
  | '[' => some openArray
  | ']' => some closeArray
  | ':' => some colon
  | ',' => some comma
  | _ => none

def isSpace (byte : UInt8) : Bool := byte = 0x20 || byte = 0x09 || byte = 0x0A || byte = 0x0D

def ofWord (word : List UInt8) : Token :=
  let characters := word.map fun byte => Char.ofNat byte.toNat
  if characters = "null".toList then null
  else if characters = "true".toList then bool true
  else if characters = "false".toList then bool false
  else match Numeral.ofWord? characters with
    | some numeral => number numeral
    | none => junk

def ofSpelling (spelling : Spelling) : Token :=
  if spelling.isWellFormed then text spelling else junk

end Token

/-- The token whose bytes are being read, collected in reverse. -/
inductive Pending
  | nothing
  | word (reversed : List UInt8)
  | text (reversed : List UInt8) (escaped : Bool)
deriving DecidableEq

/-- The tokens read so far in reverse, and the one begun. -/
structure Lexer where
  reversed : List Token
  pending : Pending

namespace Lexer

def start : Lexer := ⟨[], .nothing⟩

def push (lexer : Lexer) (token : Token) : Lexer := ⟨token :: lexer.reversed, .nothing⟩

def endWord (lexer : Lexer) : Lexer :=
  match lexer.pending with
  | .word reversed => lexer.push (.ofWord reversed.reverse)
  | _ => lexer

def step (lexer : Lexer) (byte : UInt8) : Lexer :=
  match lexer.pending with
  | .text reversed true => { lexer with pending := .text (byte :: reversed) false }
  | .text reversed false =>
    if byte = 0x22 then lexer.push (.ofSpelling reversed.reverse)
    else { lexer with pending := .text (byte :: reversed) (byte = 0x5C) }
  | pending =>
    if Token.isSpace byte then lexer.endWord
    else if byte = 0x22 then { lexer.endWord with pending := .text [] false }
    else match Token.punctuation? byte with
      | some token => lexer.endWord.push token
      | none =>
        let begun := match pending with
          | .word reversed => reversed
          | _ => []
        { lexer with pending := .word (byte :: begun) }

/-- The tokens in order. A string without its closing quote is none. -/
def finish (lexer : Lexer) : List Token :=
  match lexer.pending with
  | .text .. => (lexer.push .junk).reversed.reverse
  | _ => lexer.endWord.reversed.reverse

end Lexer

def tokens (bytes : List UInt8) : List Token := (bytes.foldl Lexer.step .start).finish

end GridDiffusion.Json
