import Provision.Proofs.CredentialUpsert
import Provision.Proofs.Effects

/-!
# Credentials in the documents of a replica

A credential is created by one document and replaced by another, which has no
name in it and says `null` where a description is missing.  The server completes
the first with an id and merges the second into what it stored.  What is read
back has the settings of the specification either way, and of a credential that
was replaced the id, the name and the further members are those from before.
-/

namespace Provision

namespace CredentialSpec

variable {spec : CredentialSpec} {name : String}

theorem find?_creationMembers (spec : CredentialSpec) :
    Members.find? name spec.creationMembers =
      if name = "description" then spec.description.map .string
      else if name = "audiences" then some (Json.ofTexts spec.audiences)
      else if name = "subject" then some (.string spec.subject)
      else if name = "issuer" then some (.string spec.issuer)
      else if name = "name" then some (.string spec.name)
      else none := by
  by_cases isDescription : name = "description" <;> cases described : spec.description <;>
    simp [creationMembers, Json.present, Members.ofList, Members.find?_insert, Members.find?,
      described, isDescription]

theorem find?_replacementMembers (spec : CredentialSpec) :
    Members.find? name spec.replacementMembers =
      if name = "description" then some (Json.ofOptional spec.description)
      else if name = "audiences" then some (Json.ofTexts spec.audiences)
      else if name = "subject" then some (.string spec.subject)
      else if name = "issuer" then some (.string spec.issuer)
      else none := by
  simp only [replacementMembers, Members.ofList, Members.override_cons, Members.override_nil,
    Members.find?_insert, Members.find?]

end CredentialSpec

namespace Credential

/-- The credential with the settings of a specification; its id, its name and its further members
stay. -/
def settle (credential : Credential) (spec : CredentialSpec) : Credential :=
  { credential with
    issuer := spec.issuer
    subject := spec.subject
    audiences := spec.audiences
    description := spec.description }

variable {spec : CredentialSpec} {credential : Credential} {id name : String}
  {members : List (String × Json)}

theorem hasSettings_settle (credential : Credential) (spec : CredentialSpec) :
    (credential.settle spec).hasSettings spec = true := by
  simp [settle, hasSettings]

theorem settle_of_hasSettings (settled : credential.hasSettings spec = true) :
    credential.settle spec = credential := by
  simp only [hasSettings, Bool.and_eq_true, decide_eq_true_eq] at settled
  rcases settled with ⟨⟨⟨issuer, subject⟩, audiences⟩, description⟩
  simp [settle, ← issuer, ← subject, ← audiences, ← description]

theorem list?_ofTexts (texts : List String) :
    Json.list? Json.text? (Json.ofTexts texts) = some texts := by
  have read : Json.readAll? Json.text? (texts.map Json.string) = some texts := by
    induction texts with
    | nil => rfl
    | cons text rest ih => simp [Json.readAll?, Json.text?, ih]
  simpa [Json.list?, Json.ofTexts, Json.elements?] using read

/-- A credential has the settings of a specification when its document has them. -/
theorem decode?_of_settings (hasId : Json.withDefault Json.text? "" "id" members = some id)
    (hasName : Json.required Json.text? "name" members = some name)
    (issuer : Members.find? "issuer" members = some (.string spec.issuer))
    (subject : Members.find? "subject" members = some (.string spec.subject))
    (audiences : Members.find? "audiences" members = some (Json.ofTexts spec.audiences))
    (description : Json.optional Json.text? "description" members = some spec.description) :
    decode? (.object members) = some (⟨id, name, spec.issuer, spec.subject, spec.audiences,
      spec.description, Members.without fieldNames members⟩ : Credential) := by
  have issuerRead : Json.required Json.text? "issuer" members = some spec.issuer := by
    simp [Json.required, issuer, Json.text?]
  have subjectRead : Json.required Json.text? "subject" members = some spec.subject := by
    simp [Json.required, subject, Json.text?]
  have audiencesRead : Json.withDefault (Json.list? Json.text?) [exchangeAudience] "audiences"
      members = some spec.audiences := by
    simp [Json.withDefault, audiences, list?_ofTexts]
  simp [decode?, Json.members?, hasId, hasName, issuerRead, subjectRead, audiencesRead,
    description]

/-- What a credential keeps when its settings are replaced is read from members of their own. -/
theorem kept_of_decode? (decoded : decode? (.object members) = some credential) :
    Json.withDefault Json.text? "" "id" members = some credential.id ∧
      Json.required Json.text? "name" members = some credential.name ∧
      Members.without fieldNames members = credential.extra := by
  simp only [decode?, Json.members?, Option.bind_eq_bind, Option.bind_eq_some_iff,
    Option.pure_def, Option.some.injEq] at decoded
  rcases decoded with ⟨_, rfl, id, hasId, name, hasName, _, _, _, _, _, _, _, _, rfl⟩
  exact ⟨hasId, hasName, rfl⟩

/-- Merging a replacement into the document of a credential replaces its settings. -/
theorem decode?_replaced (decoded : decode? (.object members) = some credential)
    (spec : CredentialSpec) :
    decode? (.object (Members.override members spec.replacementMembers)) =
      some (credential.settle spec) := by
  have set {name : String} {document : Json}
      (found : Members.find? name spec.replacementMembers = some document) :
      Members.find? name (Members.override members spec.replacementMembers) = some document :=
    Members.find?_override_of_mem Members.sorted_ofList.distinct (Members.mem_of_find? found)
  have kept {name : String} (absent : Members.find? name spec.replacementMembers = none) :
      Members.find? name (Members.override members spec.replacementMembers) =
        Members.find? name members :=
    Members.find?_override_of_forall_ne (Members.find?_eq_none_iff.mp absent)
  have listed : ∀ change ∈ spec.replacementMembers, change.1 ∈ fieldNames :=
    Members.mem_names_of_mem_ofList (by simp [fieldNames])
  obtain ⟨hasId, hasName, extra⟩ := kept_of_decode? decoded
  rw [← Members.without_override_of_mem listed] at extra
  unfold settle
  rw [← extra]
  apply decode?_of_settings
  · rw [Replica.withDefault_congr (kept (by simp [CredentialSpec.find?_replacementMembers]))]
    exact hasId
  · rw [Json.required, kept (by simp [CredentialSpec.find?_replacementMembers])]
    exact hasName
  · exact set (by simp [CredentialSpec.find?_replacementMembers])
  · exact set (by simp [CredentialSpec.find?_replacementMembers])
  · exact set (by simp [CredentialSpec.find?_replacementMembers])
  · exact Scope.optional_ofOptional (set (by simp [CredentialSpec.find?_replacementMembers]))

/-- What is created is read with the id it was given and the settings of the specification. -/
theorem decode?_created (hasId : Members.find? "id" members = some (.string id))
    (kept : ∀ name, name ≠ "id" → name ≠ "appId" → name ≠ "@odata.type" →
      Members.find? name members = Members.find? name spec.creationMembers) :
    decode? (.object members) = some { (Specification.build spec id : Credential) with
      extra := Members.without fieldNames members } := by
  apply decode?_of_settings
  · simp [Json.withDefault, hasId, Json.text?, Specification.build]
  · simp [Json.required, kept, CredentialSpec.find?_creationMembers, Json.text?,
      Specification.build]
  · simp [kept, CredentialSpec.find?_creationMembers]
  · simp [kept, CredentialSpec.find?_creationMembers]
  · simp [kept, CredentialSpec.find?_creationMembers]
  · have found : Members.find? "description" members = spec.description.map .string := by
      simp [kept, CredentialSpec.find?_creationMembers]
    cases described : spec.description <;>
      simp [Json.optional, found, described, Json.text?]

end Credential

end Provision
