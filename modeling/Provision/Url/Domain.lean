import Provision.Text.Basic
import Provision.Url.Domain.Direction
import Provision.Url.Domain.Label

/-!
# Host names in ASCII

A host name may be given in any script.  `asciiDomain?` maps its characters,
divides it into labels, and writes every label in ASCII.
-/

namespace Provision.Url

/-- The characters of ASCII that no host name may hold. -/
def isForbidden (char : Char) : Bool :=
  char.toNat ≤ 0x20 || char.toNat = 0x7F || "%#/:<>?@[\\]^|".toList.contains char

/-- The form of a host name in ASCII, if it has one. -/
def asciiDomain? (host : List Char) : Option (List Char) := do
  let mapped ← host.mapM Domain.image?
  let labels ← (Text.pieces '.' mapped.flatten).mapM Domain.Label.of?
  let domain := List.intercalate ['.'] (labels.map Domain.Label.ascii)
  if domain.any isForbidden || !Domain.directionsAllowed (labels.map Domain.Label.text) then none
  else some domain

end Provision.Url
