import Chip8.Text.Printable

namespace Chip8

/-- Text with a surrogate in it: one half of a pair of codes that only together encode a character.
No output takes such text. -/
structure BrokenText where
  before : String
  surrogate : Fin 2048
  after : List (Char ⊕ Fin 2048)

namespace Text

private def lowerHex (width value : Nat) : List Char :=
  let digits := Nat.toDigits 16 value
  List.replicate (width - digits.length) '0' ++ digits

def escaped (mark character : Char) : List Char :=
  let code := character.toNat
  if character = mark ∨ character = '\\' then ['\\', character]
  else if character = '\t' then ['\\', 't']
  else if character = '\n' then ['\\', 'n']
  else if character = '\r' then ['\\', 'r']
  else if isPrintable character then [character]
  else if code < 0x100 then '\\' :: 'x' :: lowerHex 2 code
  else if code < 0x10000 then '\\' :: 'u' :: lowerHex 4 code
  else '\\' :: 'U' :: lowerHex 8 code

def quoteMark (characters : List Char) : Char :=
  if characters.contains '\'' && !characters.contains '"' then '"' else '\''

def quoted (text : String) : String :=
  let mark := quoteMark text.toList
  String.ofList (mark :: text.toList.flatMap (escaped mark) ++ [mark])

def quotedList (names : List String) : String :=
  "[" ++ ", ".intercalate (names.map quoted) ++ "]"

def escapedSurrogate (surrogate : Fin 2048) : List Char :=
  '\\' :: 'u' :: lowerHex 4 (0xD800 + surrogate.val)

def quotedBytes (bytes : List UInt8) : String :=
  let characters := bytes.map fun byte => Char.ofNat byte.toNat
  let mark := quoteMark characters
  let piece (character : Char) : List Char :=
    if character.toNat < 0x7F then escaped mark character
    else '\\' :: 'x' :: lowerHex 2 character.toNat
  String.ofList ('b' :: mark :: characters.flatMap piece ++ [mark])

end Text

namespace BrokenText

def characters (text : BrokenText) : List (Char ⊕ Fin 2048) :=
  text.before.toList.map .inl ++ .inr text.surrogate :: text.after

def length (text : BrokenText) : Nat := text.characters.length

def escaped (text : BrokenText) : String :=
  String.ofList (text.characters.flatMap fun
    | .inl character => [character]
    | .inr surrogate => Text.escapedSurrogate surrogate)

def quoted (text : BrokenText) : String :=
  let mark := Text.quoteMark (text.characters.filterMap Sum.getLeft?)
  String.ofList (mark :: text.characters.flatMap (fun
    | .inl character => Text.escaped mark character
    | .inr surrogate => Text.escapedSurrogate surrogate) ++ [mark])

def append (text : BrokenText) (more : BrokenText) : BrokenText :=
  { text with after := text.after ++ more.characters }

end BrokenText
end Chip8
