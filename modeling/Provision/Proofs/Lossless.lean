import Mathlib.Data.List.Forall2
import Provision.Collection
import Provision.Item.Credential
import Provision.Item.IdentifierUri
import Provision.Item.Scope
import Provision.Proofs.Members

/-!
# Records that survive a round trip

A collection is fetched, changed in one item and written back as a whole, so the
items that were not touched pass through a decoder and an encoder.  A value is
`Lossless` when nothing of it is lost that way.  A permission scope is lossless
exactly when its unknown members are in order and none of them has the name of
a field, which holds of every scope that is read from an ordered document and of
every scope that a specification builds.
-/

namespace Provision

/-- The document of a value stands for that very value. -/
def Record.Lossless {Value : Type} [Record Value] (value : Value) : Prop :=
  decode? (encode value) = some value

open Record (Lossless)

section Lists

variable {Value : Type} [Record Value] {values : List Value}

theorem readAll?_map_encode (lossless : ∀ value ∈ values, Lossless value) :
    Json.readAll? decode? (values.map encode) = some values := by
  induction values with
  | nil => rfl
  | cons value rest ih =>
      have headRead : decode? (encode value) = some value := lossless value (by simp)
      have restRead := ih fun value value_mem => lossless value (List.mem_cons_of_mem _ value_mem)
      simp [Json.readAll?, headRead, restRead]

theorem lossless_list (lossless : ∀ value ∈ values, Lossless value) : Lossless values :=
  readAll?_map_encode lossless

/-- A list is read element by element. -/
theorem readAll?_eq_some_iff {Value : Type} {read? : Json → Option Value} {elements : List Json}
    {values : List Value} : Json.readAll? read? elements = some values ↔
      List.Forall₂ (fun element value => read? element = some value) elements values := by
  induction elements generalizing values with
  | nil => simp [Json.readAll?, eq_comm]
  | cons element rest ih =>
      simp only [Json.readAll?, Option.bind_eq_bind, Option.bind_eq_some_iff, Option.pure_def,
        Option.some.injEq, List.forall₂_cons_left_iff, ← ih]
      constructor
      · rintro ⟨value, elementRead, others, restRead, rfl⟩
        exact ⟨value, others, elementRead, restRead, rfl⟩
      · rintro ⟨value, others, elementRead, restRead, rfl⟩
        exact ⟨value, elementRead, others, restRead, rfl⟩

/-- Every value of a list is read from an element of the array. -/
theorem exists_element_of_mem_readAll? {Value : Type} {read? : Json → Option Value}
    {elements : List Json} {values : List Value} (read : Json.readAll? read? elements = some values)
    {value : Value} (value_mem : value ∈ values) :
    ∃ element ∈ elements, read? element = some value := by
  induction elements generalizing values with
  | nil =>
      simp only [Json.readAll?, Option.some.injEq] at read
      simp [← read] at value_mem
  | cons element rest ih =>
      simp only [Json.readAll?, Option.bind_eq_bind, Option.bind_eq_some_iff, Option.pure_def,
        Option.some.injEq] at read
      rcases read with ⟨first, firstRead, others, restRead, rfl⟩
      rcases List.mem_cons.mp value_mem with rfl | others_mem
      · exact ⟨element, by simp, firstRead⟩
      · rcases ih restRead others_mem with ⟨found, found_mem, foundRead⟩
        exact ⟨found, List.mem_cons_of_mem _ found_mem, foundRead⟩

/-- A list is read in parts. -/
theorem exists_split_of_readAll?_append {Value : Type} {read? : Json → Option Value}
    {elements : List Json} {first second : List Value}
    (read : Json.readAll? read? elements = some (first ++ second)) :
    ∃ firstRead secondRead, elements = firstRead ++ secondRead ∧
      Json.readAll? read? firstRead = some first ∧
        Json.readAll? read? secondRead = some second := by
  induction first generalizing elements with
  | nil => exact ⟨[], elements, rfl, rfl, read⟩
  | cons value rest ih =>
      cases elements with
      | nil => simp [Json.readAll?] at read
      | cons element others =>
          simp only [Json.readAll?, List.cons_append, Option.bind_eq_bind, Option.bind_eq_some_iff,
            Option.pure_def, Option.some.injEq, List.cons.injEq] at read
          rcases read with ⟨_, elementRead, _, othersRead, rfl, rfl⟩
          rcases ih othersRead with ⟨firstRead, secondRead, rfl, restRead, secondIsRead⟩
          refine ⟨element :: firstRead, secondRead, rfl, ?_, secondIsRead⟩
          simp [Json.readAll?, elementRead, restRead]

end Lists

section Fields

variable {Value : Type} {read? : Json → Option Value} {default value : Value} {name : String}
  {members : List (String × Json)}

theorem Json.eq_string_of_text? {document : Json} {text : String}
    (isText : document.text? = some text) : document = .string text := by
  cases document with
  | string held => rw [Option.some.inj isText]
  | _ => simp [Json.text?] at isText

theorem Json.eq_bool_of_flag? {document : Json} {flag : Bool}
    (isFlag : document.flag? = some flag) : document = .bool flag := by
  cases document with
  | bool held => rw [Option.some.inj isFlag]
  | _ => simp [Json.flag?] at isFlag

theorem Json.find?_of_required {text : String}
    (read : Json.required Json.text? name members = some text) :
    Members.find? name members = some (.string text) := by
  rcases Option.bind_eq_some_iff.mp read with ⟨document, found, isText⟩
  rw [found, Json.eq_string_of_text? isText]

theorem Json.find?_of_withDefault
    (read : Json.withDefault read? default name members = some value) :
    (∃ document, Members.find? name members = some document ∧ read? document = some value) ∨
      (Members.find? name members = none ∧ value = default) := by
  unfold Json.withDefault at read
  split at read
  next document found => exact Or.inl ⟨document, found, read⟩
  next missing => exact Or.inr ⟨missing, (Option.some.inj read).symm⟩

theorem Json.find?_of_optional {text : Option String}
    (read : Json.optional Json.text? name members = some text) :
    Members.find? name members = some (Json.ofOptional text) ∨
      (Members.find? name members = none ∧ text = none) := by
  unfold Json.optional at read
  split at read
  next found => exact Or.inl (by simpa [← Option.some.inj read, Json.ofOptional] using found)
  next missing => exact Or.inr ⟨missing, (Option.some.inj read).symm⟩
  next document _ found =>
    rcases Option.map_eq_some_iff.mp read with ⟨content, isText, rfl⟩
    left
    rw [found, Json.eq_string_of_text? isText, Json.ofOptional]

end Fields

/-- A kind of item that loses nothing, neither when it is read and written back nor when its gate is
moved in between. -/
class Item.Durable (Element : Type) [Item Element] [Record Element] : Prop where
  lossless_of_decode {document : Json} {item : Element} (ordered : document.Ordered)
    (decoded : decode? document = some item) : Lossless item
  lossless_setEnabled {item : Element} (open? : Bool) (lossless : Lossless item) :
    Lossless (Item.setEnabled open? item)

/-- A kind of definition whose items lose nothing. -/
class Specification.Durable (Spec : Type) {Element : Type} [Record Element]
    [Specification Spec Element] : Prop where
  lossless_build (spec : Spec) (id : String) : Lossless (Specification.build spec id : Element)

/-- A kind of definition whose items have its key. -/
class Specification.Keyed (Spec : Type) {Element : Type} [Item Element]
    [Specification Spec Element] : Prop where
  key_build (spec : Spec) (id : String) :
    Item.key (Specification.build spec id : Element) = Specification.key spec

namespace Collection

variable {Element : Type} [Record Element] {collection : Collection Element} {document : Json}

theorem lossless_of_items (lossless : ∀ item ∈ collection.items, Lossless item) :
    Lossless collection := by
  have itemsRead : (decode? (encode collection.items) : Option (List Element)) =
      some collection.items := lossless_list lossless
  simp only [Lossless, decode?, encode] at itemsRead ⊢
  simp [itemsRead]

/-- The items of a collection that is read from an ordered document are lossless. -/
theorem lossless_items_of_decode [Item Element] [Item.Durable Element]
    (ordered : document.Ordered) (decoded : decode? document = some collection) :
    ∀ item ∈ collection.items, Lossless item := by
  intro item item_mem
  simp only [decode?, Option.map_eq_some_iff, Json.list?, Option.bind_eq_some_iff] at decoded
  rcases decoded with ⟨items, ⟨elements, isArray, read⟩, rfl⟩
  cases document with
  | array found =>
      obtain rfl : found = elements := by simpa [Json.elements?] using isArray
      rcases exists_element_of_mem_readAll? read item_mem with ⟨element, element_mem, elementRead⟩
      exact Item.Durable.lossless_of_decode (ordered.element element_mem) elementRead
  | _ => simp [Json.elements?] at isArray

end Collection

theorem IdentifierUri.lossless (identifier : IdentifierUri) : Lossless identifier := rfl

instance : Item.Durable IdentifierUri where
  lossless_of_decode _ _ := IdentifierUri.lossless _
  lossless_setEnabled _ _ := IdentifierUri.lossless _

instance : Specification.Durable UriSpec where
  lossless_build _ _ := IdentifierUri.lossless _

instance : Specification.Keyed UriSpec where
  key_build _ _ := rfl

namespace Scope

/-- The unknown members of a scope are in order, and none of them has the name of a field. -/
structure ExtraApart (scope : Scope) : Prop where
  sorted : Members.Sorted scope.extra
  unlisted : ∀ member ∈ scope.extra, member.1 ∉ fieldNames

/-- The members that a scope has fields for. -/
def fields (scope : Scope) : List (String × Json) :=
  [("id", .string scope.id), ("value", .string scope.value),
    ("isEnabled", .bool scope.isEnabled), ("type", encode scope.consenter),
    ("adminConsentDisplayName", Json.ofOptional scope.adminConsentDisplayName),
    ("adminConsentDescription", Json.ofOptional scope.adminConsentDescription),
    ("userConsentDisplayName", Json.ofOptional scope.userConsentDisplayName),
    ("userConsentDescription", Json.ofOptional scope.userConsentDescription)]

theorem encode_eq (scope : Scope) :
    encode scope = .object (Members.override (Members.ofList scope.fields) scope.extra) := rfl

theorem mem_fieldNames_of_mem_fields {scope : Scope} {field : String × Json}
    (field_mem : field ∈ scope.fields) : field.1 ∈ fieldNames := by
  have names : scope.fields.map Prod.fst = fieldNames := rfl
  rw [← names]
  exact List.mem_map_of_mem field_mem

theorem optional_ofOptional {name : String} {text : Option String}
    {members : List (String × Json)}
    (found : Members.find? name members = some (Json.ofOptional text)) :
    Json.optional Json.text? name members = some text := by
  cases text <;> simp [Json.optional, found, Json.ofOptional, Json.text?]

/-- Each field is found in the document of a scope whatever its unknown members are. -/
theorem ExtraApart.find?_field {scope : Scope} (apart : scope.ExtraApart) {name : String}
    {document : Json} (field_mem : (name, document) ∈ scope.fields) :
    Members.find? name (Members.override (Members.ofList scope.fields) scope.extra) =
      some document := by
  have distinct : (scope.fields.map Prod.fst).Nodup := by simp [fields]
  have listed : name ∈ fieldNames := mem_fieldNames_of_mem_fields field_mem
  rw [Members.find?_override_of_forall_ne]
  · exact Members.find?_override_of_mem distinct field_mem
  · rintro member member_mem rfl
    exact apart.unlisted member member_mem listed

/-- A scope is read from members among which its fields are found. -/
theorem decode?_of_fields {members : List (String × Json)} {scope : Scope}
    (found : ∀ {name document}, (name, document) ∈ scope.fields →
      Members.find? name members = some document)
    (extra : Members.without fieldNames members = scope.extra) :
    decode? (.object members) = some scope := by
  have id : Members.find? "id" members = _ := found (by simp [fields]; rfl)
  have value : Members.find? "value" members = _ := found (by simp [fields]; rfl)
  have isEnabled : Members.find? "isEnabled" members = _ := found (by simp [fields]; rfl)
  have consenter : Members.find? "type" members = _ := found (by simp [fields]; rfl)
  have adminName : Members.find? "adminConsentDisplayName" members = _ :=
    found (by simp [fields]; rfl)
  have adminText : Members.find? "adminConsentDescription" members = _ :=
    found (by simp [fields]; rfl)
  have userName : Members.find? "userConsentDisplayName" members = _ :=
    found (by simp [fields]; rfl)
  have userText : Members.find? "userConsentDescription" members = _ :=
    found (by simp [fields]; rfl)
  have consenterRead : Consenter.ofName? scope.consenter.name = some scope.consenter := by
    cases scope.consenter <;> rfl
  simp [decode?, Json.members?, Json.required, Json.withDefault, id, value, isEnabled, consenter,
    Json.text?, Json.flag?, encode, Json.choice?, consenterRead, optional_ofOptional adminName,
    optional_ofOptional adminText, optional_ofOptional userName, optional_ofOptional userText,
    extra]

theorem ExtraApart.lossless {scope : Scope} (apart : scope.ExtraApart) : Lossless scope := by
  have extraBack : Members.without fieldNames
      (Members.override (Members.ofList scope.fields) scope.extra) = scope.extra :=
    Members.without_override_ofList (fun _ => mem_fieldNames_of_mem_fields) apart.unlisted
      apart.sorted
  rw [Lossless, encode_eq]
  exact decode?_of_fields apart.find?_field extraBack

/-- What is read of members in order leaves the unknown ones apart. -/
theorem extraApart_of_decode {members : List (String × Json)} {scope : Scope}
    (sorted : Members.Sorted members) (decoded : decode? (.object members) = some scope) :
    scope.ExtraApart := by
  simp only [decode?, Json.members?, Option.bind_eq_bind, Option.bind_eq_some_iff,
    Option.pure_def, Option.some.injEq] at decoded
  rcases decoded with ⟨_, rfl, _, _, _, _, _, _, _, _, _, _, _, _, _, _, _, _, rfl⟩
  exact ⟨sorted.without, fun member => Members.not_mem_of_mem_without⟩

theorem lossless_iff {scope : Scope} : Lossless scope ↔ scope.ExtraApart := by
  constructor
  · intro lossless
    exact extraApart_of_decode Members.sorted_ofList.override lossless
  · exact ExtraApart.lossless

instance : Item.Durable Scope where
  lossless_of_decode {document} _ ordered decoded := by
    cases document with
    | object members => exact (extraApart_of_decode ordered.sorted decoded).lossless
    | _ => simp [decode?, Json.members?] at decoded
  lossless_setEnabled open? lossless := by
    have apart := lossless_iff.mp lossless
    exact lossless_iff.mpr ⟨apart.sorted, apart.unlisted⟩

end Scope

instance : Specification.Durable ScopeSpec where
  lossless_build _ _ := Scope.lossless_iff.mpr ⟨List.Pairwise.nil, by simp [Specification.build]⟩

instance : Specification.Keyed ScopeSpec where
  key_build _ _ := rfl

end Provision
