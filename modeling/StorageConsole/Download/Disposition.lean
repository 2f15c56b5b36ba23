import StorageConsole.Text.Blank
import StorageConsole.Text.Percent
import StorageConsole.Text.Pieces

/-! The file name in a `Content-Disposition` header, looked for everywhere in it. -/

namespace StorageConsole.Download.Disposition

open Text (isBlank)

def dropWord : (word : List Char) → List Char → Option (List Char)
  | [], cs => some cs
  | _ :: _, [] => none
  | w :: word, c :: cs => if c.toLower = w then dropWord word cs else none

def dropEquals (cs : List Char) : Option (List Char) :=
  match cs.dropWhile isBlank with
  | '=' :: rest => some (rest.dropWhile isBlank)
  | _ => none

def inExtended (c : Char) : Bool := c != ';' && c != '"' && !isBlank c

def extendedHere? (cs : List Char) : Option (List Char) := do
  let rest ← dropEquals (← dropWord "filename*".toList cs)
  let value := ((if rest.head? = some '"' then rest.drop 1 else rest).takeWhile inExtended)
  if value.isEmpty then none else some value

def quoted? (quote : Char) (cs : List Char) : Option (List Char) :=
  match cs with
  | c :: rest =>
    if c = quote ∧ rest.contains quote then some (rest.takeWhile (· != quote)) else none
  | [] => none

def inToken (c : Char) : Bool := c != ';' && !isBlank c

def plainHere? (cs : List Char) : Option (List Char) := do
  let rest ← dropEquals (← dropWord "filename".toList cs)
  match quoted? '"' rest with
  | some value => some value
  | none =>
    match quoted? '\'' rest with
    | some value => some value
    | none =>
      let value := rest.takeWhile inToken
      if value.isEmpty then none else some value

def search {α : Type} (here? : List Char → Option α) : List Char → Option α
  | [] => here? []
  | c :: cs => (here? (c :: cs)).or (search here? cs)

def afterLanguage? (raw : List Char) : Option (List Char) :=
  match (raw.dropWhile (· != '\'')).drop 1 with
  | [] => none
  | rest =>
    match rest.dropWhile (· != '\'') with
    | _ :: value => some value
    | [] => none

def decodeExtended? (raw : List Char) : Option (List Char) :=
  let value := match afterLanguage? raw with
    | some value => value
    | none => raw.map fun c => if c = '+' then ' ' else c
  (Text.Utf8.decodeChars? (Text.Percent.decode (Text.Utf8.encodeChars value))).map Text.trimChars

def nonempty? (name : List Char) : Option (List Char) :=
  if name.isEmpty then none else some name

def filenameChars? (header : List Char) : Option (List Char) :=
  (((search extendedHere? header).bind decodeExtended?).bind nonempty?).or
    (((search plainHere? header).map Text.trimChars).bind nonempty?)

def filename? (header : String) : Option String :=
  (filenameChars? header.toList).map String.ofList

end StorageConsole.Download.Disposition
