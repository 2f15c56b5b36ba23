import StorageConsole.Http.Header

/-! The grammar of media types: `type/subtype` and parameters after semicolons. -/

namespace StorageConsole.Http.MediaType

open HeaderName (isTokenChar)

def closeQuote (first : Bool) : List Char → Option (List Char)
  | [] => none
  | c :: rest =>
    if c = '"' ∧ !first then some rest
    else if c.toNat ≤ 31 ∨ c.toNat = 127 then none
    else closeQuote false rest

def afterValue (cs : List Char) : Option (List Char) :=
  match cs with
  | '"' :: quoted =>
    match closeQuote true quoted with
    | none => none
    | some after =>
      match after.dropWhile (· == ' ') with
      | [] => some []
      | ';' :: rest => some rest
      | _ => none
  | _ =>
    match cs.dropWhile isTokenChar with
    | [] => some []
    | ';' :: rest => if (cs.head?).any isTokenChar then some rest else none
    | _ => none

def parameters : (fuel : Nat) → List Char → Bool
  | 0, _ => false
  | fuel + 1, cs =>
    match cs.dropWhile (· == ' ') with
    | [] => true
    | c :: rest =>
      let name := (c :: rest).takeWhile isTokenChar
      match (c :: rest).dropWhile isTokenChar with
      | '=' :: value =>
        if name.isEmpty then false
        else match afterValue value with
          | some more => parameters fuel more
          | none => false
      | _ => false

def isValid (s : String) : Bool :=
  let cs := s.toList
  match cs.dropWhile isTokenChar with
  | '/' :: rest =>
    if (cs.takeWhile isTokenChar).isEmpty then false
    else match rest.dropWhile isTokenChar with
      | [] => true
      | ';' :: more =>
        !(rest.takeWhile isTokenChar).isEmpty && parameters (more.length + 1) more
      | _ => false
  | _ => false

end StorageConsole.Http.MediaType
