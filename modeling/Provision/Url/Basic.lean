import Provision.Text.Blank
import Provision.Url.Domain
import Provision.Url.Ip
import Provision.Url.Percent

/-!
# URLs

`Url.parse` reads a URL as browsers do: it forgives blanks at the ends, slashes
and backslashes in excess, and dot segments, and refuses what cannot be mended.
The result holds the parts in their normal form.

A URL of one of the special schemes has a host and a path; in all other schemes
the host is not interpreted, and the part after the scheme need not be a path
at all.
-/

namespace Provision

/-- A URL by its parts in normal form. -/
structure Url where
  scheme : String
  username : String
  password : Option String
  host : Option String
  port : Option Nat
  path : String
  query : Option String
deriving DecidableEq, Repr

namespace Url

/-- How the part after a scheme is read. -/
inductive SchemeKind where
  | file
  | special
  | opaquePath
deriving DecidableEq, Repr

/-- The kind of a scheme. -/
def SchemeKind.of (scheme : String) : SchemeKind :=
  if scheme = "file" then file
  else if ["http", "https", "ws", "wss", "ftp"].contains scheme then special
  else opaquePath

/-- The port that a scheme uses when none is given. -/
def defaultPort? : String → Option Nat
  | "http" | "ws" => some 80
  | "https" | "wss" => some 443
  | "ftp" => some 21
  | _ => none

/-- The characters between the controls and spaces at both ends, without tabs and line breaks. -/
def clean (text : List Char) : List Char :=
  let atEnd (char : Char) : Bool := char.toNat ≤ 0x20
  let trimmed := ((text.dropWhile atEnd).reverse.dropWhile atEnd).reverse
  trimmed.filter fun char => char ≠ '\t' ∧ char ≠ '\n' ∧ char ≠ '\r'

/-- The scheme that a text begins with, in lower case, and what follows its colon. -/
def scheme? (text : List Char) : Option (String × List Char) :=
  let isLetter (char : Char) : Bool := ('a' ≤ char && char ≤ 'z') || ('A' ≤ char && char ≤ 'Z')
  let inScheme (char : Char) : Bool :=
    isLetter char || ('0' ≤ char && char ≤ '9') || char = '+' || char = '-' || char = '.'
  match text with
  | [] => none
  | first :: _ =>
    if isLetter first then
      match text.dropWhile inScheme with
      | ':' :: rest => some (String.ofList ((text.takeWhile inScheme).map Text.lowerAscii), rest)
      | _ => none
    else none

/-- Whether a character ends the part of a URL that holds its host. -/
def endsAuthority (special : Bool) (char : Char) : Bool :=
  char = '/' || char = '?' || char = '#' || (special && char = '\\')

/-- User name and password, percent-encoded, as they stand before the host. -/
def userInfo (text : List Char) : String × Option String :=
  let name := text.takeWhile (· ≠ ':')
  let password := (text.dropWhile (· ≠ ':')).drop 1
  (String.ofList (percentEncode userReserved name),
    if password.isEmpty then none else some (String.ofList (percentEncode userReserved password)))

/-- The characters of a host, up to a colon outside brackets. -/
def takeHost : Bool → List Char → List Char × List Char
  | _, [] => ([], [])
  | inBrackets, char :: rest =>
    if char = ':' ∧ ¬ inBrackets then ([], char :: rest)
    else
      let (host, rest) :=
        takeHost (if char = '[' then true else if char = ']' then false else inBrackets) rest
      (char :: host, rest)

/-- The address of version 6 between brackets. -/
def bracketed (host : List Char) : Except Error String :=
  if host.getLast? = some ']' then (ipv6? host.dropLast).map ipv6Text else .error .invalidIpv6

/-- The host of a special scheme: an address or a domain. -/
def specialHost : List Char → Except Error String
  | '[' :: rest => bracketed rest
  | host =>
    match ((Text.Utf8.decode? (percentDecode (Text.Utf8.encode host))).bind asciiDomain?) with
    | none => .error .invalidDomainName
    | some domain =>
      if domain.isEmpty then .error .emptyHost
      else if endsInNumber domain then (ipv4? domain).map ipv4Text
      else .ok (String.ofList domain)

/-- The host of any other scheme: an address, or characters that are not interpreted. -/
def opaqueHost : List Char → Except Error String
  | '[' :: rest => bracketed rest
  | host =>
    let forbidden (char : Char) : Bool :=
      char = '\x00' || "\t\n\r #/:<>?@[\\]^|".toList.contains char
    if host.any forbidden then .error .invalidHostCharacter
    else .ok (String.ofList (percentEncode [] host))

/-- The port after its colon, and what follows it; the default port of the scheme is left out. -/
def readPort (scheme : String) (text : List Char) : Except Error (Option Nat) :=
  if text.all fun char => (Text.digitValue? char).isSome then
    match text, digitsValue? 10 text with
    | [], _ => .ok none
    | _, some value =>
      if 65535 < value then .error .invalidPort
      else .ok (if defaultPort? scheme = some value then none else some value)
    | _, none => .error .invalidPort
  else .error .invalidPort

/-- A segment of a path that stands for the directory itself. -/
def isDot (segment : List Char) : Bool :=
  let segment := segment.map Text.lowerAscii
  segment = ['.'] || segment = "%2e".toList

/-- A segment of a path that stands for the directory above. -/
def isDoubleDot (segment : List Char) : Bool :=
  let segment := segment.map Text.lowerAscii
  segment = "..".toList || segment = ".%2e".toList || segment = "%2e.".toList
    || segment = "%2e%2e".toList

/-- The segments that remain when dot segments are resolved; `kept` holds those before in
reverse. -/
def resolveDots (kept : List (List Char)) : List (List Char) → List (List Char)
  | [] => kept.reverse
  | segment :: rest =>
    if isDoubleDot segment then
      resolveDots (if rest.isEmpty then [] :: kept.drop 1 else kept.drop 1) rest
    else if isDot segment then resolveDots (if rest.isEmpty then [] :: kept else kept) rest
    else resolveDots (segment :: kept) rest

/-- The segments of a path behind its first slash. -/
def segments (special : Bool) (text : List Char) : List (List Char) :=
  Text.pieces '/' (if special then text.map fun char => if char = '\\' then '/' else char else text)

/-- A path in normal form, behind its first slash. -/
def normalPath (special : Bool) (text : List Char) : String :=
  let encoded := (segments special text).map (percentEncode pathReserved)
  String.ofList ('/' :: List.intercalate ['/'] (resolveDots [] encoded))

/-- What stands before the query, the query, both without the fragment. -/
def splitQuery (text : List Char) : List Char × Option (List Char) :=
  let text := text.takeWhile (· ≠ '#')
  match text.dropWhile (· ≠ '?') with
  | [] => (text, none)
  | _ :: query => (text.takeWhile (· ≠ '?'), some query)

/-- A query in normal form. -/
def normalQuery (special : Bool) (query : List Char) : String :=
  String.ofList (percentEncode (if special then '\'' :: queryReserved else queryReserved) query)

/-- A URL whose part after the slashes begins with a host. -/
def withAuthority (scheme : String) (special : Bool) (text : List Char) : Except Error Url := do
  let authority := text.takeWhile fun char => !endsAuthority special char
  let rest := text.dropWhile fun char => !endsAuthority special char
  let hasUser := authority.contains '@'
  let hostAndPort := (authority.reverse.takeWhile (· ≠ '@')).reverse
  let user := authority.take (authority.length - hostAndPort.length - 1)
  if hasUser ∧ user.isEmpty ∧ hostAndPort.isEmpty ∧ ¬ rest.isEmpty then throw .emptyHost
  let (username, password) := userInfo user
  let (hostText, portText) := takeHost false hostAndPort
  if special ∧ hostText.isEmpty then throw .emptyHost
  let host ← if special then specialHost hostText else opaqueHost hostText
  if host = "" ∧ ¬ portText.isEmpty then throw .emptyHost
  let portText := portText.drop 1
  let (portDigits, rest) :=
    if special then (portText, rest)
    else (portText.takeWhile (· ≠ '\\'), portText.dropWhile (· ≠ '\\') ++ rest)
  let port ← readPort scheme portDigits
  if host = "" ∧ (username ≠ "" ∨ password.isSome) then throw .emptyHost
  let (path, query) := splitQuery rest
  return {
    scheme, username, password, port
    host := if host = "" then none else some host
    path := match special, path with
      | false, [] => ""
      | _, '/' :: path => normalPath special path
      | true, '\\' :: path => normalPath special path
      | _, path => normalPath special path
    query := query.map (normalQuery special) }

/-- A URL of the scheme of files; its host may be missing. -/
def fileUrl (text : List Char) : Except Error Url := do
  let isSlash (char : Char) : Bool := char = '/' || char = '\\'
  let isDrive (host : List Char) : Bool :=
    match host with
    | [letter, mark] => letter.isAlpha && (mark = ':' || mark = '|')
    | _ => false
  let (host, rest) : List Char × List Char :=
    match text with
    | first :: second :: rest =>
      if isSlash first && isSlash second then
        let host := rest.takeWhile fun char => !endsAuthority true char
        if isDrive host then ([], rest) else (host, rest.dropWhile fun char => !endsAuthority true char)
      else ([], text)
    | _ => ([], text)
  let host ← if host.isEmpty then pure "" else specialHost host
  let (path, query) := splitQuery rest
  return {
    scheme := "file", username := "", password := none, port := none
    host := if host = "" ∨ host = "localhost" then none else some host
    path := normalPath true (path.dropWhile isSlash)
    query := query.map (normalQuery true) }

/-- A URL without a host, of a scheme whose paths are not interpreted. -/
def withoutAuthority (scheme : String) (text : List Char) : Url :=
  let (path, query) := splitQuery text
  { scheme, username := "", password := none, host := none, port := none
    path := match path with
      | '/' :: path => normalPath false path
      | path => String.ofList (percentEncode [] path)
    query := query.map (normalQuery false) }

/-- Reads a URL. -/
def parse (text : String) : Except Error Url :=
  match scheme? (clean text.toList) with
  | none => .error .relative
  | some (scheme, rest) =>
    match SchemeKind.of scheme, rest with
    | .file, rest => fileUrl rest
    | .special, rest =>
      withAuthority scheme true (rest.dropWhile fun char => char = '/' || char = '\\')
    | .opaquePath, '/' :: '/' :: rest => withAuthority scheme false rest
    | .opaquePath, rest => .ok (withoutAuthority scheme rest)

/-- The host with its port, unless that is the default of the scheme. -/
def hostAndPort (url : Url) : String :=
  url.host.getD "" ++ (url.port.map fun port => ":" ++ Text.decimal port).getD ""

/-- The path with the query. -/
def target (url : Url) : String :=
  url.path ++ (url.query.map fun query => "?" ++ query).getD ""

end Url

end Provision
