import TextCharts.Url.Address
import TextCharts.Url.Domain
import TextCharts.Url.Error
import TextCharts.Url.Percent

namespace TextCharts.Url

inductive Host
  -- A name, and the empty name where there is no host.
  | name (text : String)
  | ipv4 (n : Nat)
  | ipv6 (pieces : List Nat)
  deriving DecidableEq, Repr

namespace Host

def none : Host :=
  .name ""

def shown : Host → String
  | name text => text
  | ipv4 n => Ipv4.shown n
  | ipv6 pieces => "[" ++ Ipv6.shown pieces ++ "]"

-- The address in brackets.
def bracketed (text : List Char) : Except ParseError Host :=
  match text.getLast? with
  | some ']' =>
    match Ipv6.parse? text.dropLast with
    | some pieces => .ok (.ipv6 pieces)
    | Option.none => .error .badIpv6
  | _ => .error .badIpv6

-- The host of a scheme that has a port of its own, or of a file.
def parse (text : List Char) : Except ParseError Host :=
  match text with
  | '[' :: rest => bracketed rest
  | _ =>
    match Domain.toAscii? (decodeText text) with
    | Option.none => .error .badDomain
    | some [] => .error .emptyHost
    | some domain =>
      if Ipv4.isMeant domain then
        match Ipv4.parse? domain with
        | some n => .ok (.ipv4 n)
        | Option.none => .error .badIpv4
      else .ok (.name (.ofList domain))

def isOpaqueForbidden (c : Char) : Bool :=
  ['\x00', '\t', '\n', '\r', ' ', '#', '/', ':', '<', '>', '?', '@', '[', '\\', ']', '^',
    '|'].contains c

-- The host of any other scheme.
def parseOpaque (text : List Char) : Except ParseError Host :=
  match text with
  | '[' :: rest => bracketed rest
  | _ =>
    if text.any isOpaqueForbidden then .error .badDomainCharacter
    else .ok (.name (.ofList (encode isControl text)))

end Host
end TextCharts.Url
