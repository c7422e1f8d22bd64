import Provision.Item.Basic
import Provision.Json.Record

/-!
# Permission scopes

A permission scope is an entry of the list of scopes that an application offers
to others.  Its key is its value, and it has a gate that is open or shut.  What
the server adds to a scope beyond the fields known here is kept in `extra`, so
that a write of the whole list gives it back unchanged.
-/

namespace Provision

/-- Who may consent to a permission scope. -/
inductive Consenter where
  | admin
  | user
deriving DecidableEq, Repr, Inhabited

namespace Consenter

/-- The name of who may consent. -/
def name : Consenter → String
  | admin => "Admin"
  | user => "User"

/-- Who may consent, by name. -/
def ofName? : String → Option Consenter
  | "Admin" => some admin
  | "User" => some user
  | _ => none

instance : Record Consenter where
  encode consenter := .string consenter.name
  decode? document := document.choice?.bind ofName?

end Consenter

/-- A permission that an application offers. -/
structure Scope where
  id : String
  value : String
  isEnabled : Bool
  consenter : Consenter
  adminConsentDisplayName : Option String
  adminConsentDescription : Option String
  userConsentDisplayName : Option String
  userConsentDescription : Option String
  extra : List (String × Json)
deriving DecidableEq, Inhabited

namespace Scope

instance : Item Scope where
  id := Scope.id
  key := Scope.value
  enabled scope := some scope.isEnabled
  setEnabled enabled scope := { scope with isEnabled := enabled }

/-- The member names that a scope has a field for. -/
def fieldNames : List String :=
  ["id", "value", "isEnabled", "type", "adminConsentDisplayName", "adminConsentDescription",
    "userConsentDisplayName", "userConsentDescription"]

instance : Record Scope where
  encode scope := .object <| Members.override
    (Members.ofList
      [("id", .string scope.id), ("value", .string scope.value),
        ("isEnabled", .bool scope.isEnabled), ("type", encode scope.consenter),
        ("adminConsentDisplayName", Json.ofOptional scope.adminConsentDisplayName),
        ("adminConsentDescription", Json.ofOptional scope.adminConsentDescription),
        ("userConsentDisplayName", Json.ofOptional scope.userConsentDisplayName),
        ("userConsentDescription", Json.ofOptional scope.userConsentDescription)])
    scope.extra
  decode? document := do
    let members ← document.members?
    let id ← Json.required Json.text? "id" members
    let value ← Json.required Json.text? "value" members
    let isEnabled ← Json.withDefault Json.flag? false "isEnabled" members
    let consenter ← Json.withDefault decode? Consenter.user "type" members
    let adminConsentDisplayName ← Json.optional Json.text? "adminConsentDisplayName" members
    let adminConsentDescription ← Json.optional Json.text? "adminConsentDescription" members
    let userConsentDisplayName ← Json.optional Json.text? "userConsentDisplayName" members
    let userConsentDescription ← Json.optional Json.text? "userConsentDescription" members
    return {
      id, value, isEnabled, consenter, adminConsentDisplayName, adminConsentDescription
      userConsentDisplayName, userConsentDescription
      extra := Members.without fieldNames members }

end Scope

/-- The definition of a permission scope. -/
structure ScopeSpec where
  value : String
  consenter : Consenter := .user
  enabled : Bool := true
  adminConsentDisplayName : Option String := none
  adminConsentDescription : Option String := none
  userConsentDisplayName : Option String := none
  userConsentDescription : Option String := none
deriving DecidableEq, Inhabited

instance : Specification ScopeSpec Scope where
  key := ScopeSpec.value
  validate spec := do
    let value ← Argument.verbatim "value" spec.value
    if value.toList.any Text.isBlank then
      throw (.invalid "value" "scope values cannot contain spaces")
    let _ ← Argument.given "admin_consent_display_name" spec.adminConsentDisplayName
    let _ ← Argument.given "admin_consent_description" spec.adminConsentDescription
  build spec id :=
    { id
      value := spec.value
      isEnabled := spec.enabled
      consenter := spec.consenter
      adminConsentDisplayName := spec.adminConsentDisplayName
      adminConsentDescription := spec.adminConsentDescription
      userConsentDisplayName := spec.userConsentDisplayName
      userConsentDescription := spec.userConsentDescription
      extra := [] }

end Provision
