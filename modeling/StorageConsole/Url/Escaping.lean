import StorageConsole.Text.Percent

namespace StorageConsole.Url.Escaping

def isPrinting (b : UInt8) : Bool := 0x20 ≤ b && b ≤ 0x7E

def keepsBut (escaped : String) (b : UInt8) : Bool :=
  isPrinting b && !escaped.toList.any (·.toNat == b.toNat)

def inFragment (b : UInt8) : Bool := keepsBut " \"<>`" b

def inQuery (b : UInt8) : Bool := keepsBut " \"#<>" b

def inWebQuery (b : UInt8) : Bool := keepsBut " \"#<>'" b

def inPath (b : UInt8) : Bool := keepsBut " \"<>`#?\x7b\x7d" b

def inUserinfo (b : UInt8) : Bool := keepsBut " \"<>`#?\x7b\x7d/:;=@[\\]^|" b

def encode (keep : UInt8 → Bool) (cs : List Char) : List Char :=
  Text.Percent.encode keep (Text.Utf8.encodeChars cs)

end StorageConsole.Url.Escaping
