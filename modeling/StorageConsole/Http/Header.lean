import StorageConsole.Text.Percent

namespace StorageConsole.Http

structure HeaderName where
  text : String
  deriving DecidableEq, Repr

namespace HeaderName

def isTokenChar (c : Char) : Bool :=
  c.isAlphanum || "!#$%&'*+-.^_`|~".toList.contains c

def maxLength : Nat := 65535

def ofString? (s : String) : Option HeaderName :=
  let cs := s.toList
  if !cs.isEmpty && cs.all isTokenChar && cs.length ≤ maxLength then
    some ⟨String.ofList (cs.map Char.toLower)⟩
  else none

def contentType : HeaderName := ⟨"content-type"⟩

def contentDisposition : HeaderName := ⟨"content-disposition"⟩

def authorization : HeaderName := ⟨"authorization"⟩

def accept : HeaderName := ⟨"accept"⟩

end HeaderName

abbrev HeaderValue := Bytes

namespace HeaderValue

def isValid (v : HeaderValue) : Bool :=
  v.all fun b => (0x20 ≤ b && b != 0x7F) || b == 0x09

def ofString? (s : String) : Option HeaderValue :=
  let v := Text.Utf8.encode s
  if isValid v then some v else none

def text? (v : HeaderValue) : Option String :=
  if v.all fun b => (0x20 ≤ b && b < 0x7F) || b == 0x09 then
    some (String.ofList (v.map fun b => Char.ofNat b.toNat))
  else none

end HeaderValue

abbrev Headers := List (HeaderName × HeaderValue)

namespace Headers

def get? (hs : Headers) (name : HeaderName) : Option HeaderValue :=
  (hs.find? (·.1 == name)).map (·.2)

def text? (hs : Headers) (name : HeaderName) : Option String :=
  (hs.get? name).bind HeaderValue.text?

def erase (hs : Headers) (name : HeaderName) : Headers :=
  hs.filter (·.1 != name)

def insert (hs : Headers) (name : HeaderName) (value : HeaderValue) : Headers :=
  hs.erase name ++ [(name, value)]

def insertAll (hs : Headers) (more : Headers) : Headers :=
  more.foldl (fun hs field => hs.insert field.1 field.2) hs

def fill (hs : Headers) (defaults : Headers) : Headers :=
  hs ++ defaults.filter fun field => !hs.any (·.1 == field.1)

end Headers
end StorageConsole.Http
