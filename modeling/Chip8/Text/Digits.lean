/-! # Integers in text: hexadecimal with a least width, bytes, decimal in groups of three -/

namespace Chip8.Text

def padLeft (width : Nat) (fill : Char) (text : String) : String :=
  String.ofList (List.replicate (width - text.length) fill) ++ text

def hex (width : Nat) (value : Int) : String :=
  let digits := String.ofList ((Nat.toDigits 16 value.natAbs).map Char.toUpper)
  if value < 0 then "-" ++ padLeft (width - 1) '0' digits else padLeft width '0' digits

def smallHex (width value : Nat) : String :=
  padLeft width '0' (String.ofList (Nat.toDigits 16 value))

def ofBytes (bytes : List UInt8) : String :=
  String.join (bytes.map fun byte => smallHex 2 byte.toNat)

def digitValue (digit : Char) : Nat :=
  if digit.isDigit then digit.toNat - 48 else digit.toLower.toNat - 87

def hexValue (digits : List Char) : Nat :=
  digits.foldl (fun value digit => 16 * value + digitValue digit) 0

def toBytes : List Char → List UInt8
  | high :: low :: rest => UInt8.ofNat (hexValue [high, low]) :: toBytes rest
  | _ => []

def groupFromRight : List Char → List Char
  | a :: b :: c :: d :: rest => a :: b :: c :: ',' :: groupFromRight (d :: rest)
  | short => short

def grouped (value : Int) : String :=
  let digits := String.ofList (groupFromRight (toString value.natAbs).toList.reverse).reverse
  if value < 0 then "-" ++ digits else digits

def groupedText (text : String) : String :=
  let sign := text.toList.takeWhile (· == '-')
  let unsigned := text.toList.dropWhile (· == '-')
  let digits := (groupFromRight (unsigned.takeWhile Char.isDigit).reverse).reverse
  String.ofList (sign ++ digits ++ unsigned.dropWhile Char.isDigit)

end Chip8.Text
