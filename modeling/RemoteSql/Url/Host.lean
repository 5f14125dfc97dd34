import RemoteSql.Domain.Basic
import RemoteSql.Url.Basic

/-!
# Hosts

A host in brackets is an IPv6 address. The host of a special URL is percent decoded and written as
a domain in ASCII; then it is an IPv4 address if its last part is a number.
-/

namespace RemoteSql.Url.Host

/-- The characters that no domain holds. -/
def isForbidden (c : Char) : Bool :=
  c.toNat ≤ 0x20 || c.toNat == 0x7F || "%#/:<>?@[\\]^|".toList.contains c

/-- The characters that no host of another URL holds. -/
def isForbiddenElsewhere (c : Char) : Bool :=
  c.toNat == 0 || isIgnored c || " #/:<>?@[\\]^|".toList.contains c

def bracketed (cs : List Char) : Except UrlFault (List Char) :=
  if cs.getLast? ≠ some ']' then .error .ipv6
  else
    match Ipv6.parse? cs.dropLast with
    | none => .error .ipv6
    | some groups => .ok ('[' :: Ipv6.render groups ++ [']'])

/-- The domain or IPv4 address that a text names. -/
def domain (cs : List Char) : Except UrlFault (List Char) :=
  match (Utf8.decode? (decode cs)).bind fun text => Domain.written? text.toList with
  | none => .error .domain
  | some name =>
    if name.any isForbidden then .error .domain
    else if name.isEmpty then .error .emptyHost
    else if Ipv4.endsInNumber name then
      match Ipv4.parse? name with
      | none => .error .ipv4
      | some n => .ok (Ipv4.render n)
    else .ok name

def special : List Char → Except UrlFault (List Char)
  | '[' :: cs => bracketed cs
  | cs => domain cs

def other : List Char → Except UrlFault (List Char)
  | '[' :: cs => bracketed cs
  | cs =>
    if cs.any isForbiddenElsewhere then .error .domainCharacter
    else .ok (encode EncodeSet.controls cs)

end RemoteSql.Url.Host
