import Provision.Item.Entry
import Provision.Proofs.CredentialDocuments
import Provision.Proofs.ItemSets

/-!
# Collections that are read back as they were written

Three kinds of item keep members that they have no field for.  Such an item comes back
from its document exactly when these members are in order and none of them has the
name of a field: a member with the name of a field would be written over the field.  What
is read from an ordered document, and what a specification of a scope or of a credential
builds, is of that form.

The two collections that are attributes of an application come back as well from the body
of the write that replaces them, and from any application that the body is merged into.
-/

namespace Provision

open Record (Lossless)

namespace Members

variable {Value : Type} {names : List String} {fields extra : List (String × Value)} {name : String}

/-- Members beside the fields of a record: they are in order, and none has the name of a field. -/
structure Apart (names : List String) (extra : List (String × Value)) : Prop where
  sorted : Sorted extra
  unlisted : ∀ member ∈ extra, member.1 ∉ names

theorem apart_nil : Apart names ([] : List (String × Value)) :=
  ⟨List.Pairwise.nil, by simp⟩

theorem apart_without {members : List (String × Value)} (sorted : Sorted members) :
    Apart names (without names members) :=
  ⟨sorted.without, fun _ => not_mem_of_mem_without⟩

/-- A field is found as it is without the members beside it. -/
theorem Apart.find?_override (apart : Apart names extra) (listed : name ∈ names) :
    find? name (override (ofList fields) extra) = find? name (ofList fields) := by
  apply find?_override_of_forall_ne
  rintro member member_mem rfl
  exact apart.unlisted member member_mem listed

end Members

namespace Entry

variable {entry : Entry} {members : List (String × Json)} {name : String}

/-- The members that an entry has fields for. -/
def fields (entry : Entry) : List (String × Json) :=
  Json.present [("id", some (.string entry.id)), ("key", some (.string entry.key)),
    ("enabled", entry.enabled.map .bool)]

theorem find?_fields (entry : Entry) : Members.find? name (Members.ofList entry.fields) =
    if name = "enabled" then entry.enabled.map .bool
    else if name = "key" then some (.string entry.key)
    else if name = "id" then some (.string entry.id)
    else none := by
  by_cases isEnabled : name = "enabled" <;> cases gate : entry.enabled <;>
    simp [fields, Json.present, Members.ofList, Members.find?_insert, Members.find?, gate,
      isEnabled]

theorem mem_fieldNames_of_mem_fields {field : String × Json} (field_mem : field ∈ entry.fields) :
    field.1 ∈ fieldNames := by
  cases gate : entry.enabled <;> simp [fields, Json.present, gate] at field_mem <;>
    rcases field_mem with rfl | rfl | rfl <;> simp [fieldNames]

/-- An entry is read from members among which its fields are found, or are missing as in it. -/
theorem decode?_of_fields
    (found : ∀ name ∈ fieldNames,
      Members.find? name members = Members.find? name (Members.ofList entry.fields))
    (extra : Members.without fieldNames members = entry.attributes) :
    decode? (.object members) = some entry := by
  simp only [fieldNames, List.forall_mem_cons, List.not_mem_nil, false_implies, implies_true,
    and_true, find?_fields] at found
  obtain ⟨id, key, enabled⟩ := found
  have enabledRead : Json.optional Json.flag? "enabled" members = some entry.enabled := by
    cases gate : entry.enabled <;> simp [Json.optional, enabled, gate, Json.flag?]
  simp [decode?, Json.members?, Json.required, id, key, Json.text?, enabledRead, extra]

theorem lossless_of_apart (apart : Members.Apart fieldNames entry.attributes) :
    Lossless entry := by
  apply decode?_of_fields
  · exact fun name listed => apart.find?_override listed
  · exact Members.without_override_ofList (fun _ => mem_fieldNames_of_mem_fields) apart.unlisted
      apart.sorted

theorem apart_of_decode (sorted : Members.Sorted members)
    (decoded : decode? (.object members) = some entry) :
    Members.Apart fieldNames entry.attributes := by
  simp only [decode?, Json.members?, Option.bind_eq_bind, Option.bind_eq_some_iff,
    Option.pure_def, Option.some.injEq] at decoded
  rcases decoded with ⟨_, rfl, _, _, _, _, _, _, rfl⟩
  exact Members.apart_without sorted

theorem lossless_iff : Lossless entry ↔ Members.Apart fieldNames entry.attributes :=
  ⟨apart_of_decode Members.sorted_ofList.override, lossless_of_apart⟩

instance : Item.Durable Entry where
  lossless_of_decode {document} _ ordered decoded := by
    cases document with
    | object members => exact lossless_of_apart (apart_of_decode ordered.sorted decoded)
    | _ => simp [decode?, Json.members?] at decoded
  lossless_setEnabled _ lossless := by
    rw [lossless_iff] at lossless ⊢
    exact lossless

end Entry

namespace Credential

variable {credential : Credential} {members : List (String × Json)} {name : String}

/-- The members that a credential has fields for. -/
def fields (credential : Credential) : List (String × Json) :=
  Json.present
    [("id", if credential.id = "" then none else some (.string credential.id)),
      ("name", some (.string credential.name)), ("issuer", some (.string credential.issuer)),
      ("subject", some (.string credential.subject)),
      ("audiences", some (Json.ofTexts credential.audiences)),
      ("description", credential.description.map .string)]

/-- The settings of a credential, as the specification that asks for them. -/
def settings (credential : Credential) : CredentialSpec where
  name := credential.name
  issuer := credential.issuer
  subject := credential.subject
  audiences := credential.audiences
  description := credential.description

theorem find?_fields (credential : Credential) :
    Members.find? name (Members.ofList credential.fields) =
      if name = "description" then credential.description.map .string
      else if name = "audiences" then some (Json.ofTexts credential.audiences)
      else if name = "subject" then some (.string credential.subject)
      else if name = "issuer" then some (.string credential.issuer)
      else if name = "name" then some (.string credential.name)
      else if name = "id" then (if credential.id = "" then none else some (.string credential.id))
      else none := by
  by_cases isDescription : name = "description" <;> by_cases noId : credential.id = "" <;>
    cases described : credential.description <;>
      simp [fields, Json.present, Members.ofList, Members.find?_insert, Members.find?, described,
        isDescription, noId]

theorem mem_fieldNames_of_mem_fields {field : String × Json}
    (field_mem : field ∈ credential.fields) : field.1 ∈ fieldNames := by
  simp only [fields, Json.present, List.mem_filterMap] at field_mem
  obtain ⟨optional, optional_mem, isPresent⟩ := field_mem
  obtain ⟨document, -, rfl⟩ := Option.map_eq_some_iff.mp isPresent
  simp only [List.mem_cons, List.not_mem_nil, or_false] at optional_mem
  rcases optional_mem with rfl | rfl | rfl | rfl | rfl | rfl <;> simp [fieldNames]

theorem lossless_of_apart (apart : Members.Apart fieldNames credential.extra) :
    Lossless credential := by
  have extra : Members.without fieldNames
      (Members.override (Members.ofList credential.fields) credential.extra) = credential.extra :=
    Members.without_override_ofList (fun _ => mem_fieldNames_of_mem_fields) apart.unlisted
      apart.sorted
  let written : List (String × Json) :=
    Members.override (Members.ofList credential.fields) credential.extra
  have found {name : String} (listed : name ∈ fieldNames) : Members.find? name written = _ :=
    (apart.find?_override listed).trans (find?_fields credential)
  have id : Members.find? "id" written = _ := found (by simp [fieldNames])
  have name : Members.find? "name" written = _ := found (by simp [fieldNames])
  have description : Members.find? "description" written = _ := found (by simp [fieldNames])
  -- an id that is empty is left out, and one that is left out is read as empty
  have idRead : Json.withDefault Json.text? "" "id" written = some credential.id := by
    by_cases noId : credential.id = "" <;> simp [Json.withDefault, id, noId, Json.text?]
  have nameRead : Json.required Json.text? "name" written = some credential.name := by
    simp [Json.required, name, Json.text?]
  have descriptionRead : Json.optional Json.text? "description" written =
      some credential.settings.description := by
    cases described : credential.description <;>
      simp [Json.optional, description, described, Json.text?, settings]
  have read := decode?_of_settings idRead nameRead (found (by simp [fieldNames]))
    (found (by simp [fieldNames])) (found (by simp [fieldNames])) descriptionRead
  rw [extra] at read
  exact read

theorem apart_of_decode (sorted : Members.Sorted members)
    (decoded : decode? (.object members) = some credential) :
    Members.Apart fieldNames credential.extra := by
  rw [← (kept_of_decode? decoded).2.2]
  exact Members.apart_without sorted

theorem lossless_iff : Lossless credential ↔ Members.Apart fieldNames credential.extra :=
  ⟨apart_of_decode Members.sorted_ofList.override, lossless_of_apart⟩

instance : Item.Durable Credential where
  lossless_of_decode {document} _ ordered decoded := by
    cases document with
    | object members => exact lossless_of_apart (apart_of_decode ordered.sorted decoded)
    | _ => simp [decode?, Json.members?] at decoded
  lossless_setEnabled _ lossless := lossless

end Credential

theorem Scope.lossless_iff_apart {scope : Scope} :
    Lossless scope ↔ Members.Apart fieldNames scope.extra :=
  lossless_iff.trans ⟨fun apart => ⟨apart.sorted, apart.unlisted⟩,
    fun apart => ⟨apart.sorted, apart.unlisted⟩⟩

/-- Collections of a kind of item are read back as they were written when the members that an item
has no field for are apart from its fields, as they are in every item that is read. -/
structure Record.ReadsBack {Value : Type} [Record Value] (names : List String)
    (extra : Value → List (String × Json)) : Prop where
  collections : ∀ collection : Collection Value,
    (∀ item ∈ collection.items, Members.Apart names (extra item)) →
      decode? (encode collection) = some collection
  decoded : ∀ (document : Json) (item : Value), document.Ordered → decode? document = some item →
    Members.Apart names (extra item)

theorem Record.readsBack {Value : Type} [Item Value] [Record Value] [Item.Durable Value]
    {names : List String} {extra : Value → List (String × Json)}
    (lossless_iff : ∀ item, Lossless item ↔ Members.Apart names (extra item)) :
    ReadsBack names extra where
  collections _ apart :=
    Collection.lossless_of_items fun item item_mem => (lossless_iff item).mpr (apart item item_mem)
  decoded _ item ordered decoded :=
    (lossless_iff item).mp (Item.Durable.lossless_of_decode ordered decoded)

namespace ItemSet

variable {Element : Type} [Record Element] {itemSet : ItemSet Element}
  {collection : Collection Element}

/-- A collection is read back from the body of the write that replaces it, and from every
application that the body is merged into. -/
structure ReadsBack (itemSet : ItemSet Element) (collection : Collection Element) : Prop where
  body : itemSet.extract? (itemSet.patchBody collection) = some collection
  merged : ∀ (replica : Replica) (url : String) (members : List (String × Json)),
    replica.document? url = some (.object members) →
      ∃ later, replica.handle ⟨.patch, url, some (itemSet.patchBody collection)⟩ =
          .ok (.null, later) ∧
        ∃ document, later.document? url = some document ∧
          itemSet.extract? document = some collection

theorem readsBack (below : itemSet.path ≠ [])
    (lossless : ∀ item ∈ collection.items, Lossless item) : itemSet.ReadsBack collection := by
  constructor
  · rw [patchBody_eq below]
    have put_nil : itemSet.put collection [] = itemSet.changes collection := rfl
    rw [← put_nil]
    exact extract?_put below lossless
  · intro replica url members stored
    have found : replica.documents.find? (Replica.Location.ofUrl url).path =
        some (.object members) := stored
    let changed : Replica := { replica with
      documents := replica.documents.store (Replica.Location.ofUrl url).path
        (.object (itemSet.put collection members)) }
    refine ⟨changed, ?_, .object (itemSet.put collection members),
      Replica.Documents.find?_store_self, extract?_put below lossless⟩
    simp [patchBody_eq below, Replica.handle, Replica.bodyMembers, Replica.change, found, changed,
      put, pure, Except.pure, bind, Except.bind]

end ItemSet

/-- Collections of items that keep unknown members are read back as they were written, item by item
and in their order, as long as no unknown member has the name of a field; what is read and what is
built has none.  The scopes and the identifier URIs of an application are read back from the body of
their write as well, whatever application it is merged into. -/
theorem collections_read_back :
    Record.ReadsBack Entry.fieldNames Entry.attributes ∧
    Record.ReadsBack Scope.fieldNames Scope.extra ∧
    Record.ReadsBack Credential.fieldNames Credential.extra ∧
    (∀ (spec : ScopeSpec) (id : String),
      Members.Apart Scope.fieldNames (Specification.build spec id).extra) ∧
    (∀ (spec : CredentialSpec) (id : String),
      Members.Apart Credential.fieldNames (Specification.build spec id).extra) ∧
    (∀ scopes : Collection Scope,
      (∀ scope ∈ scopes.items, Members.Apart Scope.fieldNames scope.extra) →
        ItemSet.permissionScopes.ReadsBack scopes) ∧
    ∀ uris : Collection IdentifierUri, ItemSet.identifierUris.ReadsBack uris := by
  refine ⟨Record.readsBack fun _ => Entry.lossless_iff,
    Record.readsBack fun _ => Scope.lossless_iff_apart,
    Record.readsBack fun _ => Credential.lossless_iff,
    fun _ _ => Members.apart_nil, fun _ _ => Members.apart_nil, ?_, ?_⟩
  · intro scopes apart
    apply ItemSet.readsBack ItemSet.below_permissionScopes
    intro scope scope_mem
    exact Scope.lossless_iff_apart.mpr (apart scope scope_mem)
  · intro uris
    exact ItemSet.readsBack ItemSet.below_identifierUris fun uri _ => uri.lossless

/-- A credential without an id, a description or known audiences, and with a member of its own. -/
def bareCredential : Credential where
  id := ""
  name := "deploy"
  issuer := "https://issuer"
  subject := "s1"
  audiences := []
  description := none
  extra := [("claims", .object [("id", .null)])]

/-- What is missing in a credential is missing when it is read back. -/
theorem collections_read_back_sample :
    decode? (encode (⟨[bareCredential]⟩ : Collection Credential)) =
      some (⟨[bareCredential]⟩ : Collection Credential) := by
  apply collections_read_back.2.2.1.collections
  simp only [List.mem_singleton, forall_eq]
  exact ⟨by simp [Members.Sorted, bareCredential],
    by simp [bareCredential, Credential.fieldNames]⟩

end Provision
