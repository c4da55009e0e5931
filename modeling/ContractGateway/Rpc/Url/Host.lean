import ContractGateway.Rpc.Quantity
import ContractGateway.Rpc.Url.Name
import ContractGateway.Text.Utf8

/-!
# Hosts of URLs

A host is an IPv6 address in brackets, an IPv4 address or a name. In a web URL a name may hide
bytes behind percent signs, and what is spelled so that it ends in a number must be an IPv4 address.
In other URLs a host that is no IPv6 address is any text without some characters.
-/

namespace ContractGateway.Rpc.Url

/-- Why a text names no host. -/
inductive HostError where
  | empty
  | badIpv4
  | badIpv6
  | badName
  | badCharacter
  deriving DecidableEq, Repr

/-- The wording of a bad host. -/
def HostError.message : HostError → String
  | .empty => "empty host"
  | .badIpv4 => "invalid IPv4 address"
  | .badIpv6 => "invalid IPv6 address"
  | .badName => "invalid international domain name"
  | .badCharacter => "invalid domain character"

/-- Whether a text is one or more decimal digits. -/
def isDigits (text : List Char) : Bool := text ≠ [] && text.all Char.isDigit

/--
The number that a part of an IPv4 address stands for: in base sixteen behind `0x`, in base eight
behind a mere zero.
-/
def ipv4Number? : List Char → Option Nat
  | [] => none
  | '0' :: 'x' :: digits | '0' :: 'X' :: digits => numberInBase? 16 digits
  | ['0'] => some 0
  | '0' :: digits => numberInBase? 8 digits
  | digits => numberInBase? 10 digits

/-- The parts of a name; a dot at its end opens no part. -/
def labels (name : List Char) : List (List Char) :=
  match (Text.partsBetween '.' name).reverse with
  | [] :: before :: rest => (before :: rest).reverse
  | parts => parts.reverse

/-- Whether the last part of a name is a number. -/
def endsInNumber (name : List Char) : Bool :=
  (labels name).getLast?.any fun last => isDigits last || (ipv4Number? last).isSome

/--
Whether a name is an IPv4 address: up to four numbers, of which the last one fills the bytes that
the others leave.
-/
def isIpv4 (name : List Char) : Bool :=
  match (labels name).mapM ipv4Number? with
  | none => false
  | some numbers =>
      numbers.length ≤ 4 && numbers.dropLast.all (· < 256) &&
        numbers.getLast?.any (· < 256 ^ (5 - numbers.length))

/-- Whether a text is one group of an IPv6 address. -/
def isGroup (text : List Char) : Bool :=
  0 < text.length && text.length ≤ 4 && (numberInBase? 16 text).isSome

/-- Whether a text is four bytes in decimal with dots between them and no leading zeros. -/
def isDottedQuad (text : List Char) : Bool :=
  let parts := Text.partsBetween '.' text
  parts.length = 4 && parts.all fun part =>
    isDigits part && (part = ['0'] || part.head? ≠ some '0') &&
      (numberInBase? 10 part).any (· < 256)

/-- How many groups a list of texts makes; four bytes at the end stand for two of them. -/
def groupCount? (quadAllowed : Bool) : List (List Char) → Option Nat
  | [] => some 0
  | [last] =>
      if isGroup last then some 1
      else if quadAllowed && isDottedQuad last then some 2
      else none
  | group :: rest => if isGroup group then (groupCount? quadAllowed rest).map (· + 1) else none

/-- How many groups stand in a text between colons, none in the empty text. -/
def groupsIn? (quadAllowed : Bool) (text : List Char) : Option Nat :=
  if text = [] then some 0 else groupCount? quadAllowed (Text.partsBetween ':' text)

/-- The texts before and behind the first two colons in a row. -/
def aroundGap? : List Char → Option (List Char × List Char)
  | [] => none
  | ':' :: ':' :: rest => some ([], rest)
  | character :: rest => (aroundGap? rest).map fun (front, back) => (character :: front, back)

/-- Whether a text is an IPv6 address: eight groups, or fewer of them around one gap. -/
def isIpv6 (text : List Char) : Bool :=
  match aroundGap? text with
  | none => groupsIn? true text = some 8
  | some (front, back) =>
      match groupsIn? false front, groupsIn? true back with
      | some left, some right => left + right < 8
      | _, _ => false

/-- Puts the bytes in place that are written as a percent sign and two hexadecimal digits. -/
def percentDecoded : List Char → Bytes
  | [] => []
  | '%' :: high :: low :: rest =>
      match Bytes.hexValue? high, Bytes.hexValue? low with
      | some high, some low => UInt8.ofNat (high * 16 + low) :: percentDecoded rest
      | _, _ => 0x25 :: percentDecoded (high :: low :: rest)
  | character :: rest => String.utf8EncodeChar character ++ percentDecoded rest

/-- Characters that stand in no host at all. -/
def isBarredInHost (character : Char) : Bool :=
  character.toNat = 0 || "\t\n\r #/:<>?@[\\]^|".toList.contains character

/-- What stands between brackets around the whole text, if the text opens with one. -/
def bracketed? : List Char → Option (Except HostError (List Char))
  | '[' :: rest =>
      if rest.getLast? = some ']' then some (.ok rest.dropLast) else some (.error .badIpv6)
  | _ => none

/-- Checks a host that stands in brackets. -/
def checkIpv6 (inner : Except HostError (List Char)) : Except HostError Unit := do
  if isIpv6 (← inner) then return () else throw .badIpv6

/-- The name of a host in a web URL, as it is spelled. -/
def name? (text : List Char) : Option (List Char) := do
  let decoded ← Utf8.decode? (percentDecoded text)
  Name.ofText? decoded.toList

/-- Checks the name of a host in a web URL. -/
def checkName (text : List Char) : Except HostError Unit :=
  match name? text with
  | none => .error .badName
  | some [] => .error .empty
  | some name => if endsInNumber name && !isIpv4 name then .error .badIpv4 else .ok ()

/-- Checks the host of a web URL. -/
def checkHost (host : List Char) : Except HostError Unit :=
  match bracketed? host with
  | some inner => checkIpv6 inner
  | none => checkName host

/-- Checks the host of a URL that is not read as a web URL. -/
def checkOpaqueHost (host : List Char) : Except HostError Unit :=
  match bracketed? host with
  | some inner => checkIpv6 inner
  | none => if host.any isBarredInHost then .error .badCharacter else .ok ()

end ContractGateway.Rpc.Url
