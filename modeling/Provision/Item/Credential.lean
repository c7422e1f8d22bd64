import Provision.Item.Basic
import Provision.Json.Record

/-!
# Federated credentials

A federated credential lets tokens of a foreign issuer stand in for a secret of
an application.  It is addressed through an endpoint of its own, so its id may be
unknown while it is planned, and is empty then.
-/

namespace Provision

/-- Trust in the tokens that an issuer gives to a subject. -/
structure Credential where
  id : String
  name : String
  issuer : String
  subject : String
  audiences : List String
  description : Option String
  extra : List (String × Json)
deriving DecidableEq, Inhabited

/-- The audience of tokens that are exchanged for those of an application. -/
def exchangeAudience : String := "api://AzureADTokenExchange"

namespace Credential

instance : Item Credential where
  id := Credential.id
  key := Credential.name
  enabled _ := none
  setEnabled _ credential := credential

/-- The member names that a credential has a field for. -/
def fieldNames : List String := ["id", "name", "issuer", "subject", "audiences", "description"]

instance : Record Credential where
  encode credential := .object <| Members.override
    (Members.ofList <| Json.present
      [("id", if credential.id = "" then none else some (.string credential.id)),
        ("name", some (.string credential.name)), ("issuer", some (.string credential.issuer)),
        ("subject", some (.string credential.subject)),
        ("audiences", some (Json.ofTexts credential.audiences)),
        ("description", credential.description.map .string)])
    credential.extra
  decode? document := do
    let members ← document.members?
    let id ← Json.withDefault Json.text? "" "id" members
    let name ← Json.required Json.text? "name" members
    let issuer ← Json.required Json.text? "issuer" members
    let subject ← Json.required Json.text? "subject" members
    let audiences ← Json.withDefault (Json.list? Json.text?) [exchangeAudience] "audiences" members
    let description ← Json.optional Json.text? "description" members
    return {
      id, name, issuer, subject, audiences, description
      extra := Members.without fieldNames members }

/-- Whether two credentials agree in everything that a specification sets besides the name. -/
def sameSettings (left right : Credential) : Bool :=
  left.issuer = right.issuer && left.subject = right.subject && left.audiences = right.audiences
    && left.description = right.description

end Credential

/-- The definition of a federated credential. -/
structure CredentialSpec where
  name : String
  issuer : String
  subject : String
  audiences : List String := [exchangeAudience]
  description : Option String := none
deriving DecidableEq, Inhabited

instance : Specification CredentialSpec Credential where
  key := CredentialSpec.name
  validate spec := do
    let _ ← Argument.verbatim "name" spec.name
    let _ ← Argument.required "issuer" spec.issuer
    let _ ← Argument.required "subject" spec.subject
    let _ ← Argument.each "audiences" spec.audiences
  build spec id :=
    { id
      name := spec.name
      issuer := spec.issuer
      subject := spec.subject
      audiences := spec.audiences
      description := spec.description
      extra := [] }

end Provision
