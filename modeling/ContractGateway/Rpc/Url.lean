import ContractGateway.Rpc.Url.Host

/-!
# URLs

Checks the text of a URL without keeping any of it. A URL starts with a scheme. A web scheme is
followed by a host, other schemes may be followed by two slashes and a host, and behind a host may
stand a colon and a number of sixteen bits.
-/

namespace ContractGateway.Rpc

/-- Why a text is no URL. -/
inductive UrlError where
  | noScheme
  | badHost (cause : Url.HostError)
  | badPort
  deriving DecidableEq, Repr

/-- The wording of a bad URL. -/
def UrlError.message : UrlError → String
  | .noScheme => "relative URL without a base"
  | .badHost cause => cause.message
  | .badPort => "invalid port number"

namespace Url

/-- Characters that are dropped at both ends of a URL. -/
def isBlankEnd (character : Char) : Bool := character.toNat ≤ 0x20

/-- Characters that are dropped anywhere in a URL. -/
def isIgnored (character : Char) : Bool :=
  character = '\t' || character = '\n' || character = '\r'

/-- A URL as it is read: without blanks at its ends and without line ends and tabs. -/
def trimmed (text : String) : List Char :=
  let front := text.toList.dropWhile isBlankEnd
  ((front.reverse.dropWhile isBlankEnd).reverse).filter (!isIgnored ·)

/-- Characters of a scheme behind its first one. -/
def isSchemeCharacter (character : Char) : Bool :=
  character.isAlphanum || character = '+' || character = '-' || character = '.'

/-- The scheme in lower case, and what follows its colon. -/
def scheme? (characters : List Char) : Option (String × List Char) :=
  match characters with
  | [] => none
  | first :: _ =>
      if !first.isAlpha then none
      else
        match characters.dropWhile isSchemeCharacter with
        | ':' :: rest =>
            some (String.ofList ((characters.takeWhile isSchemeCharacter).map Char.toLower), rest)
        | _ => none

/-- The schemes whose URLs always name a host. -/
def webSchemes : List String := ["http", "https", "ws", "wss", "ftp"]

/-- Whether a character is a slash in a web URL. -/
def isSlash (character : Char) : Bool := character = '/' || character = '\\'

/-- Whether a character ends the part of a URL that names the host. -/
def endsAuthority (character : Char) : Bool :=
  character = '/' || character = '?' || character = '#'

/-- What stands before the last mark behind user names, if there is one, and what follows it. -/
def splitUser (authority : List Char) : Option (List Char) × List Char :=
  let host := (authority.reverse.takeWhile (· ≠ '@')).reverse
  if authority.contains '@' then
    (some (authority.take (authority.length - host.length - 1)), host)
  else (none, host)

/-- Splits a host from the digits behind its colon; a colon inside brackets belongs to it. -/
def splitHost : (bracketed : Bool) → List Char → List Char × Option (List Char)
  | _, [] => ([], none)
  | bracketed, character :: rest =>
      if character = ':' ∧ !bracketed then ([], some rest)
      else
        let inside := if character = '[' then true else if character = ']' then false else bracketed
        let (host, digits) := splitHost inside rest
        (character :: host, digits)

/-- Checks the characters behind a colon: a number of sixteen bits, or nothing at all. -/
def checkPort (digits : List Char) : Except UrlError Unit :=
  if digits.all Char.isDigit && (numberInBase? 10 digits).any (· < 2 ^ 16) then .ok ()
  else .error .badPort

/-- Checks the part of a web URL that names the host. -/
def checkAuthority (authority : List Char) : Except UrlError Unit := do
  let (host, digits) := splitHost false (splitUser authority).2
  if host = [] then throw (.badHost .empty)
  (checkHost host).mapError .badHost
  checkPort (digits.getD [])

/--
Checks the part of another URL that names the host, and knows whether the URL goes on behind it.
The host may be empty when neither user names nor a colon stand beside it.
-/
def checkOpaqueAuthority (authority : List Char) (goesOn : Bool) : Except UrlError Unit := do
  let (user, rest) := splitUser authority
  let (host, digits) := splitHost false rest
  if user = some [] ∧ host = [] ∧ digits = none ∧ goesOn then throw (.badHost .empty)
  (checkOpaqueHost host).mapError .badHost
  if host = [] ∧ digits.isSome then throw (.badHost .empty)
  checkPort ((digits.getD []).takeWhile (· ≠ '\\'))
  if host = [] ∧ user.any (fun name => name ≠ [] ∧ name ≠ [':']) then throw (.badHost .empty)

/-- Whether a text is a letter and the mark of a drive. -/
def isDrive : List Char → Bool
  | [letter, mark] => letter.isAlpha && (mark = ':' || mark = '|')
  | _ => false

/-- Checks what follows the scheme of a file URL: a host that may be empty, behind two slashes. -/
def checkFile : List Char → Except UrlError Unit
  | first :: second :: rest =>
      let host := rest.takeWhile fun character => !(endsAuthority character || isSlash character)
      if !(isSlash first && isSlash second) || host = [] || isDrive host then .ok ()
      else (checkHost host).mapError .badHost
  | _ => .ok ()

/-- Checks what follows a scheme of no particular kind. -/
def checkOpaque : List Char → Except UrlError Unit
  | '/' :: '/' :: rest =>
      checkOpaqueAuthority (rest.takeWhile (!endsAuthority ·)) (rest.any endsAuthority)
  | _ => .ok ()

/-- Checks the text of a URL. -/
def check (text : String) : Except UrlError Unit :=
  match scheme? (trimmed text) with
  | none => .error .noScheme
  | some (scheme, rest) =>
      if webSchemes.contains scheme then
        let behind := rest.dropWhile isSlash
        checkAuthority
          (behind.takeWhile fun character => !(endsAuthority character || isSlash character))
      else if scheme = "file" then checkFile rest
      else checkOpaque rest

end Url

end ContractGateway.Rpc
