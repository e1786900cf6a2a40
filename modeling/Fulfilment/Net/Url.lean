import Fulfilment.Net.SocketAddr
import Fulfilment.Net.Idna

/-!
URLs as web browsers read them, as far as this library needs: whether a text is a URL, why not,
and whether it can serve as a base. A special scheme always has a host: an IPv6 address in
brackets, an IPv4 address, or a domain made ASCII.
-/

namespace Fulfilment.Net

/-- Why a text is not a URL. -/
inductive UrlError where
  | relativeWithoutBase
  | emptyHost
  | invalidIpv6
  | invalidIpv4
  | invalidPort
  | invalidDomain
  | invalidDomainCharacter
  deriving DecidableEq, Repr

def UrlError.message : UrlError → String
  | .relativeWithoutBase => "relative URL without a base"
  | .emptyHost => "empty host"
  | .invalidIpv6 => "invalid IPv6 address"
  | .invalidIpv4 => "invalid IPv4 address"
  | .invalidPort => "invalid port number"
  | .invalidDomain => "invalid international domain name"
  | .invalidDomainCharacter => "invalid domain character"

/-- The host of a URL. -/
inductive Host where
  | domain (name : String)
  | ipv4 (address : Nat)
  | ipv6 (groups : List Nat)
  | plain (text : String)
  deriving DecidableEq, Repr

/-- A URL. -/
inductive Url where
  /-- A URL with a plain path: it cannot be a base. The parts are kept encoded. -/
  | atomic (scheme path : String) (query fragment : Option String)
  /-- A URL with a hierarchical path, after its host and port if it has them. -/
  | hierarchical (scheme : String) (host : Option Host) (port : Option Nat) (tail : String)
  deriving DecidableEq, Repr

def specialSchemes : List String := ["http", "https", "ws", "wss", "ftp", "file"]

def isControlOrSpace (c : Char) : Bool := c.toNat ≤ 0x20

/-- The text with controls and spaces dropped at both ends and tabs and line breaks dropped
everywhere. -/
def cleanInput (s : String) : List Char :=
  let cs := ((s.toList.dropWhile isControlOrSpace).reverse.dropWhile isControlOrSpace).reverse
  cs.filter fun c => c ≠ '\t' ∧ c ≠ '\n' ∧ c ≠ '\r'

def isSchemeChar (c : Char) : Bool := c.isAlphanum || c = '+' || c = '-' || c = '.'

def schemeOf? (cs : List Char) : Option (String × List Char) :=
  match cs with
  | c :: _ =>
    if !c.isAlpha then none else
    let name := cs.takeWhile isSchemeChar
    match cs.drop name.length with
    | ':' :: rest => some (String.ofList (name.map Char.toLower), rest)
    | _ => none
  | [] => none

def hexUpper (n : Nat) : Char := if n < 10 then Char.ofNat (48 + n) else Char.ofNat (55 + n)

def percentEncode (keep : Char → Bool) (c : Char) : String :=
  if keep c then String.singleton c
  else String.join ((String.singleton c).toUTF8.toList.map fun b =>
    String.ofList ['%', hexUpper (b.toNat / 16), hexUpper (b.toNat % 16)])

def pathKeeps (c : Char) : Bool := 0x20 ≤ c.toNat ∧ c.toNat < 0x7F

def queryKeeps (c : Char) : Bool := pathKeeps c && !" \"#<>".contains c

def fragmentKeeps (c : Char) : Bool := pathKeeps c && !" \"<>`".contains c

def encodePart (keep : Char → Bool) (cs : List Char) : String := String.join (cs.map (percentEncode keep))

def hexDigit? (c : Char) : Option Nat := digitValue 16 c

/-- Bytes with percent escapes decoded; a `%` without two hex digits stays. -/
def percentDecode : List UInt8 → List UInt8
  | [] => []
  | b :: tail@(h :: l :: more) =>
    if b = 37 then
      match hexDigit? (Char.ofNat h.toNat), hexDigit? (Char.ofNat l.toNat) with
      | some x, some y => (x * 16 + y).toUInt8 :: percentDecode more
      | _, _ => b :: percentDecode tail
    else b :: percentDecode tail
  | b :: rest => b :: percentDecode rest

/-- One part of an IPv4 host: decimal, octal after a leading zero, or hex after `0x`; `none`
inside when it does not fit in 32 bits. -/
def ipv4Number (s : String) : Option (Option Nat) :=
  let cs := s.toList
  if cs.isEmpty then none else
  let (radix, digits) := match cs with
    | '0' :: 'x' :: rest | '0' :: 'X' :: rest => (16, rest)
    | '0' :: d :: rest => (8, d :: rest)
    | _ => (10, cs)
  if digits.isEmpty then some (some 0) else
  let values := digits.map fun c => (digitValue 16 c).filter (· < radix)
  if values.any Option.isNone then none else
  let n := (values.filterMap id).foldl (fun a d => a * radix + d) 0
  some (if n < Nat.pow 2 32 then some n else none)

def labels (domain : String) : List String :=
  let parts := domain.splitOn "."
  if parts.length > 1 ∧ parts.getLast? = some "" then parts.dropLast else parts

/-- Whether a domain ends in a number, and so is meant as an IPv4 address. -/
def endsInNumber (domain : String) : Bool :=
  match (labels domain).getLast? with
  | none => false
  | some last =>
    (!last.isEmpty && last.all Char.isDigit) || (ipv4Number last).isSome

def ipv4Host (domain : String) : Except UrlError Nat := do
  let parts := labels domain
  if parts.length > 4 then throw .invalidIpv4
  let numbers ← parts.mapM fun p =>
    match ipv4Number p with
    | some (some n) => pure n
    | _ => throw .invalidIpv4
  match numbers.reverse with
  | [] => throw .invalidIpv4
  | last :: front =>
    if last ≥ Nat.pow 256 (4 - front.length) then throw .invalidIpv4
    if front.any (· > 255) then throw .invalidIpv4
    return (front.reverse.zipIdx.foldl (fun a (n, k) => a + n * Nat.pow 256 (3 - k)) last)

def specialHost (text : List Char) : Except UrlError Host := do
  match text with
  | '[' :: inner =>
    match inner.reverse with
    | ']' :: body =>
      match ipv6 body.reverse with
      | some (gs, []) => return .ipv6 gs
      | _ => throw .invalidIpv6
    | _ => throw .invalidIpv6
  | _ =>
    let bytes := percentDecode (String.ofList text).toUTF8.toList
    let domain ← match String.fromUTF8? ⟨bytes.toArray⟩ with
      | some s => (domainToAscii s).elim (throw .invalidDomain) pure
      | none => throw .invalidDomain
    if domain.isEmpty then throw .emptyHost
    if endsInNumber domain then return .ipv4 (← ipv4Host domain)
    return .domain domain

def plainHost (text : List Char) : Except UrlError Host := do
  match text with
  | '[' :: inner =>
    match inner.reverse with
    | ']' :: body =>
      match ipv6 body.reverse with
      | some (gs, []) => return .ipv6 gs
      | _ => throw .invalidIpv6
    | _ => throw .invalidIpv6
  | _ =>
    if text.any fun c => "\x00\t\n\r #/:<>?@[\\]^|".contains c then throw .invalidDomainCharacter
    return .plain (encodePart pathKeeps text)

def endsAuthority (special : Bool) (c : Char) : Bool := c = '/' || c = '?' || c = '#' || (special && c = '\\')

/-- The text of a host and what follows it: the host ends at a colon outside brackets or at
the end of the authority. -/
def splitHost (special : Bool) : List Char → Bool → List Char × List Char
  | [], _ => ([], [])
  | c :: rest, inside =>
    if (c = ':' && !inside) || endsAuthority special c then ([], c :: rest)
    else
      let inside := if c = '[' then true else if c = ']' then false else inside
      let (h, r) := splitHost special rest inside
      (c :: h, r)

/-- A port after its colon: digits up to the end of the authority. -/
def readPort (cs : List Char) : Except UrlError (Option Nat × List Char) :=
  let digits := cs.takeWhile Char.isDigit
  let rest := cs.drop digits.length
  let values := (List.range digits.length).map fun k =>
    (digits.take (k + 1)).foldl (fun a c => a * 10 + (c.toNat - 48)) 0
  if values.any (· > 65535) then .error .invalidPort
  else match rest with
    | c :: _ => if c = '/' || c = '\\' || c = '?' || c = '#' then .ok (values.getLast?, rest) else .error .invalidPort
    | [] => .ok (values.getLast?, rest)

/-- The authority of a URL after its slashes: user information (dropped), host and port. -/
def authority (special : Bool) (cs : List Char) : Except UrlError (Host × Option Nat × List Char) := do
  let auth := cs.takeWhile fun c => !endsAuthority special c
  let cs ← match auth.reverse.findIdx? (· = '@') with
    | none => pure cs
    | some j =>
      let atPos := auth.length - 1 - j
      let after := cs.drop (atPos + 1)
      if atPos = 0 then
        match after with
        | c :: _ => if endsAuthority special c then throw .emptyHost else pure after
        | [] => pure after
      else pure after
  let (hostText, rest) := splitHost special cs false
  if special && hostText.isEmpty then throw .emptyHost
  let host ← if special then specialHost hostText else plainHost hostText
  if host = .plain "" then
    match rest with
    | ':' :: _ => throw .emptyHost
    | _ => pure ()
  match rest with
  | ':' :: more =>
    let (port, rest) ← readPort more
    return (host, port, rest)
  | _ => return (host, none, rest)

/-- The host of a `file` URL after its two slashes: up to the next separator; `localhost`
means none. -/
def fileHost (cs : List Char) : Except UrlError (Option Host × List Char) := do
  let text := cs.takeWhile fun c => c ≠ '/' && c ≠ '\\' && c ≠ '?' && c ≠ '#'
  let rest := cs.drop text.length
  let isDrive := match text with
    | [l, c] => l.isAlpha && (c = ':' || c = '|')
    | _ => false
  if isDrive then return (none, cs)
  if text.isEmpty then return (none, rest)
  match ← specialHost text with
  | .domain "localhost" => return (none, rest)
  | h => return (some h, rest)

def plainParts (cs : List Char) : String × Option String × Option String :=
  let path := cs.takeWhile fun c => c ≠ '?' && c ≠ '#'
  let rest := cs.drop path.length
  let (query, rest) := match rest with
    | '?' :: more =>
      let q := more.takeWhile (· ≠ '#')
      (some (encodePart queryKeeps q), more.drop q.length)
    | _ => (none, rest)
  let fragment := match rest with
    | '#' :: more => some (encodePart fragmentKeeps more)
    | _ => none
  (encodePart pathKeeps path, query, fragment)

def Url.parse (s : String) : Except UrlError Url := do
  let some (scheme, rest) := schemeOf? (cleanInput s) | throw .relativeWithoutBase
  let isSlash (c : Char) : Bool := c = '/' || c = '\\'
  if scheme = "file" then
    match rest with
    | a :: b :: more =>
      if isSlash a && isSlash b then
        let (host, tail) ← fileHost more
        return .hierarchical scheme host none (String.ofList tail)
      else return .hierarchical scheme none none (String.ofList rest)
    | _ => return .hierarchical scheme none none (String.ofList rest)
  else if specialSchemes.contains scheme then
    let (host, port, tail) ← authority true (rest.dropWhile isSlash)
    return .hierarchical scheme (some host) port (String.ofList tail)
  else
    match rest with
    | '/' :: '/' :: more =>
      let (host, port, tail) ← authority false more
      return .hierarchical scheme (some host) port (String.ofList tail)
    | '/' :: _ => return .hierarchical scheme none none (String.ofList rest)
    | _ =>
      let (path, query, fragment) := plainParts rest
      return .atomic scheme path query fragment

def Url.canBeBase : Url → Bool
  | .atomic .. => false
  | .hierarchical .. => true

def Url.plainText? : Url → Option String
  | .atomic scheme path query fragment =>
    some (scheme ++ ":" ++ path ++ (query.map ("?" ++ ·)).getD "" ++ (fragment.map ("#" ++ ·)).getD "")
  | .hierarchical .. => none

end Fulfilment.Net
