import StorageConsole.Decimal.Shortest
import StorageConsole.Json.Value
import StorageConsole.Text.Hex
import StorageConsole.Text.Utf8

namespace StorageConsole.Json

namespace Printer

def escape (c : Char) : List Char :=
  if c = '"' then ['\\', '"']
  else if c = '\\' then ['\\', '\\']
  else if c = '\x08' then ['\\', 'b']
  else if c = '\x0c' then ['\\', 'f']
  else if c = '\n' then ['\\', 'n']
  else if c = '\r' then ['\\', 'r']
  else if c = '\t' then ['\\', 't']
  else if c.toNat < 0x20 then
    ['\\', 'u', '0', '0', Text.Hex.lowerDigit (c.toNat / 16), Text.Hex.lowerDigit (c.toNat % 16)]
  else [c]

def string (s : String) : List Char :=
  '"' :: s.toList.flatMap escape ++ ['"']

end Printer

def Number.text : Number → String
  | .int i => toString i
  | .real x => x.text

namespace Printer

mutual

def compact : Value → List Char
  | .null => "null".toList
  | .bool true => "true".toList
  | .bool false => "false".toList
  | .number n => n.text.toList
  | .string s => string s
  | .array items => '[' :: compactItems items ++ [']']
  | .object members => '\x7b' :: compactMembers members ++ ['\x7d']

def compactItems : List Value → List Char
  | [] => []
  | [v] => compact v
  | v :: w :: rest => compact v ++ ',' :: compactItems (w :: rest)

def compactMembers : List (String × Value) → List Char
  | [] => []
  | [(k, v)] => string k ++ ':' :: compact v
  | (k, v) :: m :: rest => string k ++ ':' :: compact v ++ ',' :: compactMembers (m :: rest)

end

def newline (level : Nat) : List Char :=
  '\n' :: List.replicate (2 * level) ' '

mutual

def indented (level : Nat) : Value → List Char
  | .null => "null".toList
  | .bool true => "true".toList
  | .bool false => "false".toList
  | .number n => n.text.toList
  | .string s => string s
  | .array [] => ['[', ']']
  | .array (v :: items) =>
    '[' :: newline (level + 1) ++ indentedItems (level + 1) (v :: items) ++ newline level ++ [']']
  | .object [] => ['\x7b', '\x7d']
  | .object (m :: members) =>
    '\x7b' :: newline (level + 1) ++ indentedMembers (level + 1) (m :: members)
      ++ newline level ++ ['\x7d']

def indentedItems (level : Nat) : List Value → List Char
  | [] => []
  | [v] => indented level v
  | v :: w :: rest => indented level v ++ ',' :: newline level ++ indentedItems level (w :: rest)

def indentedMembers (level : Nat) : List (String × Value) → List Char
  | [] => []
  | [(k, v)] => string k ++ ':' :: ' ' :: indented level v
  | (k, v) :: m :: rest =>
    string k ++ ':' :: ' ' :: indented level v ++ ',' :: newline level
      ++ indentedMembers level (m :: rest)

end
end Printer

namespace Value

def text (v : Value) : String :=
  String.ofList (Printer.compact v)

def bytes (v : Value) : Bytes :=
  Text.Utf8.encodeChars (Printer.compact v)

def prettyBytes (v : Value) : Bytes :=
  Text.Utf8.encodeChars (Printer.indented 0 v)

end Value
end StorageConsole.Json
