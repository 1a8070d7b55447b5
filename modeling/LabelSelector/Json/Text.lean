/-! # Writing JSON -/

namespace LabelSelector.Json

/-- Four digits of base sixteen. -/
def fourDigits (n : Nat) : List Char :=
  let digits := Nat.toDigits 16 n
  List.replicate (4 - digits.length) '0' ++ digits

/-- How one character is written in a string. -/
def encodeChar (c : Char) : List Char :=
  if c = '"' then ['\\', '"']
  else if c = '\\' then ['\\', '\\']
  else if c = '\x08' then ['\\', 'b']
  else if c = '\x0c' then ['\\', 'f']
  else if c = '\n' then ['\\', 'n']
  else if c = '\r' then ['\\', 'r']
  else if c = '\t' then ['\\', 't']
  else if c.toNat < 0x20 then '\\' :: 'u' :: fourDigits c.toNat
  else [c]

/-- A string. -/
def writeString (s : String) : String :=
  String.ofList ('"' :: s.toList.flatMap encodeChar ++ ['"'])

/-- A truth value. -/
def writeBool (b : Bool) : String := if b then "true" else "false"

/-- An object with the given members, whose values are written already. -/
def writeObject (members : List (String × String)) : String :=
  let written := members.map fun (name, value) => writeString name ++ ":" ++ value
  "\x7b" ++ String.intercalate "," written ++ "\x7d"

end LabelSelector.Json
