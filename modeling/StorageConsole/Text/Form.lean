import StorageConsole.Text.Percent
import StorageConsole.Text.Pieces

/-! Lists of pairs as `application/x-www-form-urlencoded`. -/

namespace StorageConsole.Text.Form

def keeps (b : UInt8) : Bool :=
  Percent.isAlphanumeric b || b == 0x2A || b == 0x2D || b == 0x2E || b == 0x5F

def encodePart (s : String) : List Char :=
  (Utf8.encode s).flatMap fun b => if b = 0x20 then ['+'] else Percent.encode keeps [b]

def encodePair (p : String × String) : List Char :=
  encodePart p.1 ++ '=' :: encodePart p.2

def encodeChars : List (String × String) → List Char
  | [] => []
  | [p] => encodePair p
  | p :: q :: rest => encodePair p ++ '&' :: encodeChars (q :: rest)

def encode (ps : List (String × String)) : String :=
  String.ofList (encodeChars ps)

def decodePart (bs : Bytes) : String :=
  Utf8.decodeLossy (Percent.decode (bs.map fun b => if b = 0x2B then 0x20 else b))

def decodePair (piece : Bytes) : String × String :=
  (decodePart (piece.takeWhile (· != 0x3D)), decodePart ((piece.dropWhile (· != 0x3D)).drop 1))

def decode (s : String) : List (String × String) :=
  ((pieces (· == 0x26) (Utf8.encode s)).filter (!·.isEmpty)).map decodePair

end StorageConsole.Text.Form
