import Provision.Item.Basic
import Provision.Json.Record
import Provision.Url.Basic

/-!
# Identifier URIs

An identifier URI names an application to others.  It is an item that consists
of nothing but its URI, which is its id and its key in one.
-/

namespace Provision

/-- A URI that names an application. -/
structure IdentifierUri where
  uri : String
deriving DecidableEq, Repr, Inhabited

instance : Item IdentifierUri where
  id := IdentifierUri.uri
  key := IdentifierUri.uri
  enabled _ := none
  setEnabled _ identifier := identifier

instance : Record IdentifierUri where
  encode identifier := .string identifier.uri
  decode? document := document.text?.map IdentifierUri.mk

/-- The definition of an identifier URI. -/
structure UriSpec where
  uri : String
deriving DecidableEq, Repr, Inhabited

/-- The URI that names an application by its client id. -/
def UriSpec.ofApp (appId : String) : UriSpec := ⟨"api://" ++ appId⟩

instance : Specification UriSpec IdentifierUri where
  key := UriSpec.uri
  validate spec := do
    let uri ← Argument.verbatim "uri" spec.uri
    match Url.parse uri with
    | .ok _ => return
    | .error error => throw (.invalid "uri" error.message)
  build spec _ := ⟨spec.uri⟩

end Provision
