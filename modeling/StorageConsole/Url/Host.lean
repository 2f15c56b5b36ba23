import StorageConsole.Url.Domain
import StorageConsole.Url.Escaping
import StorageConsole.Url.Fault
import StorageConsole.Url.Ipv6

namespace StorageConsole.Url

inductive Host where
  | name (cs : List Char)
  | ipv4 (address : Nat)
  | ipv6 (groups : List Nat)
  deriving DecidableEq, Repr

namespace Host

def text : Host → List Char
  | name cs => cs
  | ipv4 address => Ipv4.text address
  | ipv6 groups => '[' :: Ipv6.text groups ++ [']']

def isEmpty : Host → Bool
  | name cs => cs.isEmpty
  | _ => false

def bracketed (cs : List Char) : Except Fault Host :=
  if cs.getLast? = some ']' then
    match Ipv6.parse? ((cs.drop 1).dropLast) with
    | some groups => .ok (ipv6 groups)
    | none => .error .invalidIpv6
  else .error .invalidIpv6

def inDomain (c : Char) : Bool :=
  0x20 < c.toNat && c.toNat < 0x7F && !"%#/:<>?@[\\]^|".toList.contains c

def ofWeb (cs : List Char) : Except Fault Host :=
  if cs.head? = some '[' then bracketed cs
  else
    let bytes := Text.Percent.decode (Text.Utf8.encodeChars cs)
    match (Text.Utf8.decodeChars? bytes).bind Domain.toAscii? with
    | none => .error .invalidDomainName
    | some domain =>
      if !domain.all inDomain then .error .invalidDomainName
      else if domain.isEmpty then .error .emptyHost
      else if Ipv4.endsInNumber domain then
        match Ipv4.parse? domain with
        | some address => .ok (ipv4 address)
        | none => .error .invalidIpv4
      else .ok (name domain)

example : (ofWeb "ＣＯＮＳＯＬＥ.test".toList).toOption = some (.name "console.test".toList) := by
  decide +kernel

def refused : List Char :=
  "\x00\t\n\r #/:<>?@[\\]^|".toList

def ofOther (cs : List Char) : Except Fault Host :=
  if cs.head? = some '[' then bracketed cs
  else if cs.any refused.contains then .error .invalidDomainCharacter
  else .ok (name (Escaping.encode Escaping.isPrinting cs))

end Host
end StorageConsole.Url
