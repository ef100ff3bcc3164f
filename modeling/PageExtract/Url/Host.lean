import PageExtract.Url.Address
import PageExtract.Url.Domain
import PageExtract.Url.Percent

/-!
Hosts of URLs and why a text is no host.
-/

set_option autoImplicit false

namespace PageExtract.Url

/-- Why a text is no URL. -/
inductive Problem where
  | emptyHost
  | domainName
  | port
  | address32
  | address128
  | domainCharacter
  | relativeWithoutBase
  | relativeToOpaque
  deriving DecidableEq, Repr

def Problem.message : Problem → String
  | .emptyHost => "empty host"
  | .domainName => "invalid international domain name"
  | .port => "invalid port number"
  | .address32 => "invalid IPv4 address"
  | .address128 => "invalid IPv6 address"
  | .domainCharacter => "invalid domain character"
  | .relativeWithoutBase => "relative URL without a base"
  | .relativeToOpaque => "relative URL with a cannot-be-a-base base"

inductive Host where
  | name (s : List Char)
  | address32 (n : Nat)
  | address128 (groups : List Nat)
  deriving DecidableEq, Repr

namespace Host

def text : Host → List Char
  | .name s => s
  | .address32 n => address32Text n
  | .address128 groups => '[' :: address128Text groups ++ [']']

/-- A text in brackets, given without the first. -/
def bracketed (s : List Char) : Except Problem Host :=
  if s.getLast? = some ']' then
    match address128? s.dropLast with
    | some groups => .ok (.address128 groups)
    | none => .error .address128
  else .error .address128

/-- The host of a URL with a special scheme: a domain name or an address. -/
def read (s : List Char) : Except Problem Host :=
  match s with
  | '[' :: rest => bracketed rest
  | _ =>
    match (Text.ofUtf8? (decodedBytes s)).bind domain? with
    | none => .error .domainName
    | some domain =>
      if domain.isEmpty then .error .emptyHost
      else if endsInNumber domain then
        match address32? domain with
        | some n => .ok (.address32 n)
        | none => .error .address32
      else .ok (.name domain)

def isForbiddenInOpaque (c : Char) : Bool :=
  c == '\x00' || c == '\t' || c == '\n' || c == '\r' || c == ' ' || c == '#' || c == '/' ||
  c == ':' || c == '<' || c == '>' || c == '?' || c == '@' || c == '[' || c == '\\' || c == ']' ||
  c == '^' || c == '|'

/-- The host of a URL with any other scheme. -/
def readOpaque (s : List Char) : Except Problem Host :=
  match s with
  | '[' :: rest => bracketed rest
  | _ =>
    if s.any isForbiddenInOpaque then .error .domainCharacter
    else .ok (.name (encode isControl s))

end Host

end PageExtract.Url
