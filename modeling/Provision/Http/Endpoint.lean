import Provision.Text.Case
import Provision.Text.Utf8

/-!
# Endpoints of other services

The address of a service that data is exported to is accepted when it could
stand in the first line of a message: as an authority alone, as a path alone, or
as a scheme with an authority and a path.
-/

namespace Provision.Http.Endpoint

/-- Whether a character is a letter or a digit. -/
def isAlphanumeric (char : Char) : Bool := char.isAlphanum

/-- Whether a character may stand in an authority. -/
def inAuthority (char : Char) : Bool :=
  isAlphanumeric char || "!$&'()*+,-.:;=@[]_~".toList.contains char

/-- Whether a character may stand in a path. -/
def inPath (char : Char) : Bool :=
  let point := char.toNat
  (0x21 ≤ point && point ≤ 0x22) || (0x24 ≤ point && point ≤ 0x3B) || point = 0x3D
    || (0x40 ≤ point && point ≤ 0x5F) || (0x61 ≤ point && point ≤ 0x7E) || 0x7F ≤ point

/-- Whether a character may stand in a query. -/
def inQuery (char : Char) : Bool :=
  let point := char.toNat
  point = 0x21 || (0x24 ≤ point && point ≤ 0x3B) || point = 0x3D || 0x3F ≤ point

/-- Whether a text may be a path with a query. -/
def isPath (text : List Char) : Bool :=
  let text := text.takeWhile (· ≠ '#')
  (text.takeWhile (· ≠ '?')).all inPath && ((text.dropWhile (· ≠ '?')).drop 1).all inQuery

/-- Whether an authority has its brackets in order, at most one colon before the port, and something
behind its user. -/
def isAuthority (text : List Char) : Bool :=
  let host := (text.reverse.takeWhile (· ≠ '@')).reverse
  let opened := text.count '['
  let behind := if text.contains ']' then (host.reverse.takeWhile (· ≠ ']')).reverse else host
  text.all (fun char => inAuthority char || char = '%') && opened ≤ 1
    && opened = text.count ']' && behind.count ':' ≤ 1 && !behind.contains '%'
    && text.getLast? ≠ some '@'

/-- The characters of an authority at the beginning of a text, and the rest. -/
def splitAuthority (text : List Char) : List Char × List Char :=
  let ends (char : Char) : Bool := char = '/' || char = '?' || char = '#'
  (text.takeWhile fun char => !ends char, text.dropWhile fun char => !ends char)

/-- What follows the scheme of a text that begins with one. -/
def afterScheme? (text : List Char) : Option (List Char) :=
  let inScheme (char : Char) : Bool :=
    isAlphanumeric char || char = '+' || char = '-' || char = '.'
  match text.dropWhile inScheme with
  | ':' :: '/' :: '/' :: rest => some rest
  | _ => none

/-- Whether a text may be the address of a service. -/
def isValid (endpoint : String) : Bool :=
  match endpoint.toList with
  | [] => false
  | '/' :: path => isPath path
  | ['*'] => true
  | text =>
    match afterScheme? text with
    | none =>
      let (authority, rest) := splitAuthority text
      rest.isEmpty && isAuthority authority
    | some text =>
      let (authority, rest) := splitAuthority text
      !authority.isEmpty && isAuthority authority && isPath rest

end Provision.Http.Endpoint
