import StorageConsole.Download.Disposition

namespace StorageConsole.Download

def defaultFilename : String := "download.zip"

def isUnsafe (c : Char) : Bool :=
  "<>:\"/\\|?*".toList.contains c || c.toNat ≤ 0x1F

def sanitize (name : String) : String :=
  String.ofList (name.toList.map fun c => if isUnsafe c then '_' else c)

def resolveFilename (disposition requested : Option String) : String :=
  match disposition.bind Disposition.filename? with
  | some name => name
  | none =>
    match requested.filter (!Text.blank ·) with
    | some name => sanitize (Text.trim name)
    | none => defaultFilename

def isSeparator (c : Char) : Bool := c == '/' || c == '\\'

def afterSeparators (cs : List Char) : List Char :=
  (cs.reverse.takeWhile (!isSeparator ·)).reverse

def finalComponent (name : String) : String :=
  let last := String.ofList (Text.trimChars (afterSeparators name.toList))
  if last = "" ∨ last = "." ∨ last = ".." then defaultFilename else last

def occurs (part : List Char) : List Char → Bool
  | [] => part.isEmpty
  | c :: cs => part.isPrefixOf (c :: cs) || occurs part cs

def isErrorPayload (contentType : String) : Bool :=
  let lower := contentType.toList.map Char.toLower
  occurs "application/json".toList lower || occurs "text/plain".toList lower

end StorageConsole.Download
