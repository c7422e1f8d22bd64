import Provision.Proofs.OperationFailures
import Provision.Proofs.TwoPhaseRemoval

/-!
# What a write of scopes carries over

A write of scopes replaces the whole list, so the entries that an operation is
not about pass through the decoder and the encoder on their way back.  The other
direction of `Lossless` matters here: not that a scope is read back as it was
written, but that an entry is written back as it was read.  It is, member by
member, up to two liberties of the format: a member that was left out is written
with its default, and the name of a consenter that was written as an object is
written as a text.
-/

namespace Provision

open Program

theorem Consenter.eq_name_of_ofName? {text : String} {consenter : Consenter}
    (named : Consenter.ofName? text = some consenter) : text = consenter.name := by
  unfold ofName? at named
  split at named
  · rw [← Option.some.inj named, name]
  · rw [← Option.some.inj named, name]
  · simp at named

/-- A choice is read of its name, or of an object with a member of that name. -/
theorem Consenter.of_decode {document : Json} {consenter : Consenter}
    (decoded : decode? document = some consenter) :
    document = .string consenter.name ∨ document = .object [(consenter.name, .null)] := by
  simp only [decode?, Option.bind_eq_some_iff] at decoded
  rcases decoded with ⟨text, chosen, named⟩
  rw [← eq_name_of_ofName? named]
  unfold Json.choice? at chosen
  split at chosen
  · left
    rw [Option.some.inj chosen]
  · right
    rw [Option.some.inj chosen]
  · simp at chosen

namespace Scope

variable {members : List (String × Json)} {scope : Scope} {name : String} {document : Json}

/-- The members that are written of a scope where none were read. -/
def defaults : List (String × Json) :=
  [("isEnabled", .bool false), ("type", .string "User"), ("adminConsentDisplayName", .null),
    ("adminConsentDescription", .null), ("userConsentDisplayName", .null),
    ("userConsentDescription", .null)]

/-- A member that was read says a field of the scope, either in the way in which it is written or,
for a consenter, as an object; or there was none and the field has its default. -/
inductive FieldRead (members : List (String × Json)) (name : String) (document : Json) : Prop where
  | same (found : Members.find? name members = some document)
  | asObject (consenter : Consenter) (isType : name = "type")
      (found : Members.find? name members = some (.object [(consenter.name, .null)]))
      (isName : document = .string consenter.name)
  | missing (absent : Members.find? name members = none) (isDefault : (name, document) ∈ defaults)

theorem FieldRead.of_optional {text : Option String}
    (read : Json.optional Json.text? name members = some text)
    (isDefault : (name, .null) ∈ defaults) : FieldRead members name (Json.ofOptional text) := by
  rcases Json.find?_of_optional read with found | ⟨absent, rfl⟩
  · exact same found
  · exact missing absent isDefault

theorem fieldRead_of_decode (decoded : decode? (.object members) = some scope)
    (field_mem : (name, document) ∈ scope.fields) : FieldRead members name document := by
  simp only [decode?, Json.members?, Option.bind_eq_bind, Option.bind_eq_some_iff,
    Option.pure_def, Option.some.injEq] at decoded
  rcases decoded with ⟨_, rfl, id, idRead, value, valueRead, isEnabled, isEnabledRead, consenter,
    consenterRead, adminName, adminNameRead, adminText, adminTextRead, userName, userNameRead,
    userText, userTextRead, rfl⟩
  simp only [fields, List.mem_cons, Prod.mk.injEq, List.not_mem_nil, or_false] at field_mem
  rcases field_mem with ⟨rfl, rfl⟩ | ⟨rfl, rfl⟩ | ⟨rfl, rfl⟩ | ⟨rfl, rfl⟩ | ⟨rfl, rfl⟩ |
    ⟨rfl, rfl⟩ | ⟨rfl, rfl⟩ | ⟨rfl, rfl⟩
  · exact .same (Json.find?_of_required idRead)
  · exact .same (Json.find?_of_required valueRead)
  · rcases Json.find?_of_withDefault isEnabledRead with ⟨flag, found, isFlag⟩ | ⟨absent, rfl⟩
    · rw [Json.eq_bool_of_flag? isFlag] at found
      exact .same found
    · exact .missing absent (by simp [defaults])
  · rcases Json.find?_of_withDefault consenterRead with ⟨choice, found, isChoice⟩ | ⟨absent, rfl⟩
    · rcases Consenter.of_decode isChoice with rfl | rfl
      · exact .same found
      · exact .asObject consenter rfl found rfl
    · exact .missing absent (by simp [defaults, encode, Consenter.name])
  · exact .of_optional adminNameRead (by simp [defaults])
  · exact .of_optional adminTextRead (by simp [defaults])
  · exact .of_optional userNameRead (by simp [defaults])
  · exact .of_optional userTextRead (by simp [defaults])

/-- An entry is written back as it was read: with every member it had and, beyond those, with
defaults only.  The name of a consenter may have been an object with a member of that name. -/
structure Rewritten (fetched written : Json) : Prop where
  kept : ∀ {name value}, fetched.get? name = some value → written.get? name = some value ∨
    ∃ consenter : Consenter, name = "type" ∧ value = .object [(consenter.name, .null)] ∧
      written.get? name = some (.string consenter.name)
  added : ∀ {name value}, fetched.get? name = none → written.get? name = some value →
    (name, value) ∈ defaults

theorem find?_encode_of_not_mem (sorted : Members.Sorted members)
    (decoded : decode? (.object members) = some scope) (unlisted : name ∉ fieldNames) :
    (encode scope).get? name = Members.find? name members := by
  have apart : scope.ExtraApart := extraApart_of_decode sorted decoded
  have extra_eq : scope.extra = Members.without fieldNames members := by
    simp only [decode?, Json.members?, Option.bind_eq_bind, Option.bind_eq_some_iff,
      Option.pure_def, Option.some.injEq] at decoded
    rcases decoded with ⟨_, rfl, _, _, _, _, _, _, _, _, _, _, _, _, _, _, _, _, rfl⟩
    rfl
  have inExtra : Members.find? name scope.extra = Members.find? name members := by
    rw [extra_eq, Members.find?_without_of_not_mem unlisted]
  rw [encode_eq, ← inExtra]
  cases found : Members.find? name scope.extra with
  | some value =>
      exact Members.find?_override_of_mem apart.sorted.distinct (Members.mem_of_find? found)
  | none =>
      have noField : ∀ field ∈ scope.fields, field.1 ≠ name := by
        rintro field field_mem rfl
        exact unlisted (mem_fieldNames_of_mem_fields field_mem)
      change Members.find? name (Members.override (Members.ofList scope.fields) scope.extra) = none
      rw [Members.find?_override_of_forall_ne (Members.find?_eq_none_iff.mp found), Members.ofList,
        Members.find?_override_of_forall_ne noField, Members.find?]

theorem exists_fieldRead (sorted : Members.Sorted members)
    (decoded : decode? (.object members) = some scope) (listed : name ∈ fieldNames) :
    ∃ field, (encode scope).get? name = some field ∧ FieldRead members name field := by
  have apart : scope.ExtraApart := extraApart_of_decode sorted decoded
  have names : scope.fields.map Prod.fst = fieldNames := rfl
  rw [← names] at listed
  rcases List.mem_map.mp listed with ⟨⟨_, field⟩, field_mem, rfl⟩
  exact ⟨field, apart.find?_field field_mem, fieldRead_of_decode decoded field_mem⟩

theorem rewritten_of_decode (ordered : document.Ordered)
    (decoded : decode? document = some scope) : Rewritten document (encode scope) := by
  cases document with
  | object members =>
      have sorted := ordered.sorted
      constructor
      · intro name value found
        by_cases listed : name ∈ fieldNames
        · rcases exists_fieldRead sorted decoded listed with ⟨field, isWritten, read⟩
          cases read with
          | same same =>
              left
              rw [isWritten, ← same]
              exact found
          | asObject consenter isType asObject isName =>
              right
              refine ⟨consenter, isType, ?_, by rw [isWritten, isName]⟩
              exact Option.some.inj (found.symm.trans asObject)
          | missing absent _ => exact absurd (found.symm.trans absent) (by simp)
        · left
          rw [find?_encode_of_not_mem sorted decoded listed]
          exact found
      · intro name value absent isWritten
        by_cases listed : name ∈ fieldNames
        · rcases exists_fieldRead sorted decoded listed with ⟨field, fieldWritten, read⟩
          obtain rfl : field = value := Option.some.inj (fieldWritten.symm.trans isWritten)
          cases read with
          | same same => exact absurd (same.symm.trans absent) (by simp)
          | asObject _ _ asObject _ => exact absurd (asObject.symm.trans absent) (by simp)
          | missing _ isDefault => exact isDefault
        · rw [find?_encode_of_not_mem sorted decoded listed] at isWritten
          exact absurd (isWritten.symm.trans absent) (by simp)
  | _ => simp [decode?, Json.members?] at decoded

theorem forall₂_rewritten {fetched : List Json} {scopes : List Scope}
    (ordered : ∀ entry ∈ fetched, entry.Ordered)
    (read : Json.readAll? decode? fetched = some scopes) :
    List.Forall₂ Rewritten fetched (scopes.map encode) := by
  induction fetched generalizing scopes with
  | nil =>
      obtain rfl : [] = scopes := Option.some.inj read
      exact .nil
  | cons entry rest ih =>
      simp only [Json.readAll?, Option.bind_eq_bind, Option.bind_eq_some_iff, Option.pure_def,
        Option.some.injEq] at read
      rcases read with ⟨scope, entryRead, others, restRead, rfl⟩
      have entryBack : Rewritten entry (encode scope) :=
        rewritten_of_decode (ordered entry (by simp)) entryRead
      exact .cons entryBack (ih (fun other mem => ordered other (by simp [mem])) restRead)

/-- The fetched entries are written back one by one and in order, apart from one that stands for
`touched`.  The entry of `replacement` takes its place; nothing does when there is none. -/
inductive Carried (touched replacement : Option Scope) : List Json → List Json → Prop where
  | around {before entry after writtenBefore writtenAfter : List Json}
      (entryRead : Json.readAll? decode? entry = some touched.toList)
      (beforeCarried : List.Forall₂ Rewritten before writtenBefore)
      (afterCarried : List.Forall₂ Rewritten after writtenAfter) :
      Carried touched replacement (before ++ entry ++ after)
        (writtenBefore ++ replacement.toList.map encode ++ writtenAfter)

theorem carried_of_readAll? (touched replacement : Option Scope) (before after : List Scope)
    {fetched : List Json} (ordered : ∀ entry ∈ fetched, entry.Ordered)
    (read : Json.readAll? decode? fetched = some (before ++ touched.toList ++ after)) :
    Carried touched replacement fetched
      ((before ++ replacement.toList ++ after).map encode) := by
  rcases exists_split_of_readAll?_append read with ⟨front, back, rfl, frontRead, backRead⟩
  rcases exists_split_of_readAll?_append frontRead with ⟨first, entry, rfl, firstRead, entryRead⟩
  simp only [List.mem_append] at ordered
  have firstCarried := forall₂_rewritten (fun other mem => ordered other (.inl (.inl mem)))
    firstRead
  have backCarried := forall₂_rewritten (fun other mem => ordered other (.inr mem)) backRead
  have carried : Carried touched replacement (first ++ entry ++ back)
      (before.map encode ++ replacement.toList.map encode ++ after.map encode) :=
    .around entryRead firstCarried backCarried
  simpa using carried

end Scope

/-- The entries of the scopes of an application; a list that is missing is empty. -/
def scopeEntries? (application : Json) : Option (List Json) :=
  match ItemSet.partAt? ItemSet.permissionScopes.path application with
  | none | some .null => some []
  | some part => part.elements?

theorem exists_scopeEntries {application : Json} {scopes : Collection Scope}
    (ordered : application.Ordered)
    (extracted : ItemSet.permissionScopes.extract? application = some scopes) :
    ∃ fetched, scopeEntries? application = some fetched ∧
      Json.readAll? decode? fetched = some scopes.items ∧ ∀ entry ∈ fetched, entry.Ordered := by
  unfold ItemSet.extract? at extracted
  unfold scopeEntries?
  cases found : ItemSet.partAt? ItemSet.permissionScopes.path application with
  | none =>
      rw [found] at extracted
      exact ⟨[], rfl, by simp [← Option.some.inj extracted, Json.readAll?], by simp⟩
  | some part =>
      rw [found] at extracted
      cases part with
      | null => exact ⟨[], rfl, by simp [← Option.some.inj extracted, Json.readAll?], by simp⟩
      | array elements =>
          simp only [decode?, Option.map_eq_some_iff, Json.list?, Option.bind_eq_some_iff]
            at extracted
          rcases extracted with ⟨items, ⟨fetched, isArray, read⟩, rfl⟩
          obtain rfl : elements = fetched := Option.some.inj isArray
          refine ⟨elements, rfl, read, ?_⟩
          intro entry entry_mem
          exact (ItemSet.partAt?_ordered ordered found).element entry_mem
      | _ => cases extracted

/-- The entry that an upsert is about is the one with the value of the specification. -/
theorem carried_of_upsert {fetched : List Json} {scopes : Collection Scope} {spec : ScopeSpec}
    {newId : String} {upserted : Upserted Scope} (ordered : ∀ entry ∈ fetched, entry.Ordered)
    (read : Json.readAll? decode? fetched = some scopes.items)
    (planned : scopes.upsert spec newId = .ok upserted) :
    ∃ id, Scope.Carried (scopes.items.find? fun scope => scope.value = spec.value)
      (some (Specification.build spec id)) fetched (upserted.collection.items.map encode) := by
  rcases Collection.upsert_cases planned with ⟨before, item, after, holds, rfl⟩ | ⟨absent, rfl⟩
  · refine ⟨Item.id item, ?_⟩
    have found : (scopes.items.find? fun scope => scope.value = spec.value) = some item :=
      holds.find?_eq
    rw [holds.items_eq] at read
    rw [found]
    have carried := Scope.carried_of_readAll? (some item)
      (some (Specification.build spec (Item.id item))) before after ordered (by simpa using read)
    simpa using carried
  · refine ⟨newId, ?_⟩
    have otherValue : ∀ scope ∈ scopes.items, scope.value ≠ spec.value := absent
    have notFound : (scopes.items.find? fun scope => scope.value = spec.value) = none := by
      simpa [List.find?_eq_none] using otherValue
    rw [notFound]
    have carried := Scope.carried_of_readAll? none (some (Specification.build spec newId))
      scopes.items [] ordered (by simpa using read)
    simpa using carried

/-- The entry that a removal is about is the first one with the id of the entry of that value. -/
theorem carried_of_removal {fetched : List Json} {scopes : Collection Scope} {value : String}
    {plan : Removal Scope} {step : Step Scope} (ordered : ∀ entry ∈ fetched, entry.Ordered)
    (read : Json.readAll? decode? fetched = some scopes.items)
    (planned : scopes.removeByKey value true = .ok plan) (step_mem : step ∈ plan.steps) :
    ∃ named target,
      (scopes.items.find? fun scope => scope.value = Text.trim value) = some named ∧
      (scopes.items.find? fun scope => scope.id = Text.trim named.id) = some target ∧
      (Scope.Carried (some target) (some (Item.setEnabled false target)) fetched
          (step.collection.items.map encode) ∨
        Scope.Carried (some target) none fetched (step.collection.items.map encode)) := by
  rcases Collection.removeByKey_cases planned with
    ⟨named, ⟨_, _, holds⟩, before, target, after, items_eq, targetId, first, rfl⟩
  have found : scopes.get? (Text.trim named.id) = some target :=
    Collection.get?_split items_eq targetId fun other mem => targetId ▸ first other mem
  rw [items_eq] at read
  refine ⟨named, target, holds.find?_eq, found, ?_⟩
  rcases Removal.items_of_mem_steps_ofSplit step_mem with shut | leftOut
  · left
    rw [shut]
    have carried := Scope.carried_of_readAll? (some target) (some (Item.setEnabled false target))
      before after ordered (by simpa using read)
    simpa using carried
  · right
    rw [leftOut]
    have carried := Scope.carried_of_readAll? (some target) none before after ordered
      (by simpa using read)
    simpa using carried

namespace Directory

variable {State : Type} {directory : Directory} {applicationId : String}
  {admits : Request → Except RemoteError Json → Prop}

section Planned

variable {Element Result : Type} [Record Element] {itemSet : ItemSet Element}
  {planned : Collection Element → Collection Element → Prop}

/-- Every write replaces the collection that the first request has read by one that is planned for
it. -/
def WritesPlanned (directory : Directory) (itemSet : ItemSet Element) (applicationId : String)
    (planned : Collection Element → Collection Element → Prop) (sent : List Exchange) : Prop :=
  ∀ write ∈ sent, write.isWrite = true → ∃ application fetched collection,
    sent.head? = some ⟨directory.readRequest itemSet applicationId, .ok application⟩ ∧
    itemSet.fetched? applicationId application = .ok fetched ∧
    planned fetched.collection collection ∧
    write.request = directory.writeRequest itemSet fetched.objectId collection

theorem fetch_then_writes {next : Fetched Element → Program OperationError Result}
    (writes : ∀ fetched, (next fetched).Ensures admits fun sent _ => ∀ write ∈ sent,
      ∃ collection, planned fetched.collection collection ∧
        write.request = directory.writeRequest itemSet fetched.objectId collection) :
    (directory.fetch itemSet applicationId >>= next).Ensures admits fun sent _ =>
      directory.WritesPlanned itemSet applicationId planned sent := by
  have noWrite {sent : List Exchange} (onlyReads : ∀ exchange ∈ sent, exchange.isWrite = false) :
      directory.WritesPlanned itemSet applicationId planned sent := by
    intro write write_mem isWrite
    simp [onlyReads write write_mem] at isWrite
  apply (fetch_ensures directory itemSet applicationId).bind
  · rintro sent fetched (⟨_, ⟨⟩, -⟩ | ⟨application, _, ⟨⟩, read, rfl⟩)
    apply (writes fetched).weaken
    intro sentLater ending laterPlanned write write_mem isWrite
    rcases List.mem_cons.mp write_mem with rfl | later_mem
    · simp [Exchange.isWrite, Request.isWrite, readRequest] at isWrite
    · rcases laterPlanned write later_mem with ⟨collection, isPlanned, request_eq⟩
      exact ⟨application, fetched, collection, rfl, read, isPlanned, request_eq⟩
  · rintro sent failure (⟨_, _, isEarly⟩ | ⟨_, _, ⟨⟩, -⟩)
    exact noWrite isEarly.onlyReads
  · rintro sent (⟨_, ⟨⟩, -⟩ | ⟨_, _, ⟨⟩, -⟩)

theorem writeSteps_writes [Item Element] {objectId : String} {plan : Removal Element} {index : Nat}
    {steps : List (StepPosition × Step Element)} :
    (directory.writeSteps itemSet objectId plan index steps).Ensures admits fun sent _ =>
      ∀ write ∈ sent, ∃ step ∈ steps.map Prod.snd,
        write.request = directory.writeRequest itemSet objectId step.collection := by
  induction steps generalizing index with
  | nil => exact ensures_done (by simp)
  | cons positioned rest ih =>
      rcases positioned with ⟨position, step⟩
      refine ensures_report (ensures_send fun answer _ => ?_)
      cases answer with
      | error cause =>
          apply ensures_fail
          intro write write_mem
          obtain rfl : write = _ := by simpa using write_mem
          exact ⟨step, by simp, rfl⟩
      | ok document =>
          refine ih.weaken ?_
          intro sent ending laterWrites write write_mem
          rcases List.mem_cons.mp write_mem with rfl | later_mem
          · exact ⟨step, by simp, rfl⟩
          · rcases laterWrites write later_mem with ⟨later, later_step, request_eq⟩
            exact ⟨later, List.mem_cons_of_mem _ later_step, request_eq⟩

theorem removeItem_writes [Item Element] {key : String} :
    (directory.removeItem itemSet applicationId key).Ensures admits fun sent _ =>
      directory.WritesPlanned itemSet applicationId (fun collection written =>
        ∃ plan, collection.removeByKey key itemSet.disableFirst = .ok plan ∧
          ∃ step ∈ plan.steps, step.collection = written) sent := by
  apply fetch_then_writes
  intro fetched
  apply ensures_check
  · intro error _
    simp
  · intro plan planned
    apply Ensures.bind_return
    refine writeSteps_writes.weaken ?_
    intro sent _ ofSteps write write_mem
    rcases ofSteps write write_mem with ⟨step, step_mem, request_eq⟩
    rw [plan.map_snd_positioned] at step_mem
    exact ⟨step.collection, ⟨plan, planned, step, step_mem, rfl⟩, request_eq⟩

theorem upsertFetched_writes {Spec : Type} [Item Element] [DecidableEq Element]
    [Specification Spec Element] {fetched : Fetched Element} {spec : Spec} :
    (directory.upsertFetched itemSet fetched spec).Ensures admits fun sent _ => ∀ write ∈ sent,
      ∃ collection, (∃ newId upserted, fetched.collection.upsert spec newId = .ok upserted ∧
          upserted.collection = collection) ∧
        write.request = directory.writeRequest itemSet fetched.objectId collection := by
  have written {answer : Except RemoteError Json} {newId : String} {upserted : Upserted Element}
      (planned : fetched.collection.upsert spec newId = .ok upserted) :
      ∀ write ∈ [(⟨directory.writeRequest itemSet fetched.objectId upserted.collection, answer⟩ :
        Exchange)], ∃ collection, (∃ newId upserted,
          fetched.collection.upsert spec newId = .ok upserted ∧ upserted.collection = collection) ∧
        write.request = directory.writeRequest itemSet fetched.objectId collection := by
    intro write write_mem
    obtain rfl := List.mem_singleton.mp write_mem
    exact ⟨upserted.collection, ⟨newId, upserted, planned, rfl⟩, rfl⟩
  refine ensures_fresh fun newId => ?_
  apply ensures_check
  · intro error _
    simp
  · intro upserted planned
    split
    · exact ensures_done (by simp)
    · refine ensures_report (ensures_send fun answer _ => ?_)
      cases answer with
      | error => exact ensures_fail (written planned)
      | ok => exact ensures_done (written planned)

theorem upsertItem_writes {Spec : Type} [Item Element] [DecidableEq Element]
    [Specification Spec Element] {spec : Spec} :
    (directory.upsertItem itemSet applicationId spec).Ensures admits fun sent _ =>
      directory.WritesPlanned itemSet applicationId (fun collection written =>
        ∃ newId upserted, collection.upsert spec newId = .ok upserted ∧
          upserted.collection = written) sent := by
  apply ensures_check
  · intro error _ write write_mem
    simp at write_mem
  · intro _ _
    exact fetch_then_writes fun _ => upsertFetched_writes

end Planned

/-- Every document that a run is given is ordered, as all documents are that are read from texts. -/
def OrderedAnswers (sent : List Exchange) : Prop :=
  ∀ exchange ∈ sent, ∀ document, exchange.answer = .ok document → document.Ordered

/-- A write replaces the scopes of an application: the first request of the run has fetched the
entries that were there, and these are the ones that are written. -/
structure ReplacesScopes (directory : Directory) (applicationId : String) (sent : List Exchange)
    (write : Exchange) (fetched written : List Json) : Prop where
  isFetched : ∃ application, scopeEntries? application = some fetched ∧
    sent.head? =
      some ⟨directory.readRequest ItemSet.permissionScopes applicationId, .ok application⟩
  request_eq : ∃ objectId, write.request = ⟨.patch, directory.applicationUrl objectId,
    some (.object [("api", .object [("oauth2PermissionScopes", .array written)])])⟩

theorem WritesPlanned.exists_fetched {planned : Collection Scope → Collection Scope → Prop}
    {sent : List Exchange} {write : Exchange}
    (writes : directory.WritesPlanned ItemSet.permissionScopes applicationId planned sent)
    (ordered : OrderedAnswers sent) (write_mem : write ∈ sent) (isWrite : write.isWrite = true) :
    ∃ fetched scopes collection, Json.readAll? decode? fetched = some scopes.items ∧
      (∀ entry ∈ fetched, entry.Ordered) ∧ planned scopes collection ∧
      directory.ReplacesScopes applicationId sent write fetched
        (collection.items.map encode) := by
  rcases writes write write_mem isWrite with
    ⟨application, fetched, collection, isHead, read, isPlanned, request_eq⟩
  have first_mem := List.mem_of_head? isHead
  have applicationOrdered : application.Ordered := ordered _ first_mem application rfl
  rcases exists_scopeEntries applicationOrdered (ItemSet.of_fetched? read).2 with
    ⟨entries, areEntries, entriesRead, entriesOrdered⟩
  exact ⟨entries, fetched.collection, collection, entriesRead, entriesOrdered, isPlanned,
    ⟨application, areEntries, isHead⟩, fetched.objectId, request_eq⟩

theorem upsertScope_writes {spec : ScopeSpec} :
    (directory.upsertScope applicationId spec).Ensures admits fun sent _ =>
      directory.WritesPlanned ItemSet.permissionScopes (Text.trim applicationId)
        (fun scopes written => ∃ newId upserted, scopes.upsert spec newId = .ok upserted ∧
          upserted.collection = written) sent := by
  apply ensures_check
  · intro error _ write write_mem
    simp at write_mem
  · intro applicationId accepted
    rcases Argument.eq_trim_of_required accepted with ⟨rfl, -⟩
    exact upsertItem_writes.bind_return

theorem removeScope_writes {value : String} :
    (directory.removeScope applicationId value).Ensures admits fun sent _ =>
      directory.WritesPlanned ItemSet.permissionScopes (Text.trim applicationId)
        (fun scopes written => ∃ plan, scopes.removeByKey (Text.trim value) true = .ok plan ∧
          ∃ step ∈ plan.steps, step.collection = written) sent := by
  apply ensures_check
  · intro error _ write write_mem
    simp at write_mem
  · intro applicationId accepted
    rcases Argument.eq_trim_of_required accepted with ⟨rfl, -⟩
    apply ensures_check
    · intro error _ write write_mem
      simp at write_mem
    · intro value accepted
      rcases Argument.eq_trim_of_required accepted with ⟨rfl, -⟩
      exact removeItem_writes.bind_return

theorem scopeWrites_carry_untouched (directory : Directory) (client : Client State)
    (applicationId : String) :
    (∀ (spec : ScopeSpec) now sent ending later,
      (directory.upsertScope applicationId spec).Runs client now sent ending later →
      OrderedAnswers sent → ∀ write ∈ sent, write.isWrite = true →
        ∃ fetched written scopes id,
          directory.ReplacesScopes (Text.trim applicationId) sent write fetched written ∧
          Json.readAll? decode? fetched = some scopes ∧
          Scope.Carried (scopes.find? fun scope => scope.value = spec.value)
            (some (Specification.build spec id)) fetched written) ∧
      ∀ value now sent ending later,
        (directory.removeScope applicationId value).Runs client now sent ending later →
        OrderedAnswers sent → ∀ write ∈ sent, write.isWrite = true →
          ∃ fetched written scopes named target,
            directory.ReplacesScopes (Text.trim applicationId) sent write fetched written ∧
            Json.readAll? decode? fetched = some scopes ∧
            (scopes.find? fun scope => scope.value = Text.trim value) = some named ∧
            (scopes.find? fun scope => scope.id = Text.trim named.id) = some target ∧
            (Scope.Carried (some target) (some (Item.setEnabled false target)) fetched written ∨
              Scope.Carried (some target) none fetched written) := by
  constructor
  · intro spec now sent ending later runs ordered write write_mem isWrite
    have always : (directory.upsertScope applicationId spec).Ensures (fun _ _ => True) _ :=
      upsertScope_writes
    have writes := always.of_runs runs fun _ _ => trivial
    rcases writes.exists_fetched ordered write_mem isWrite with
      ⟨fetched, scopes, _, read, entriesOrdered, ⟨newId, upserted, planned, rfl⟩, replaces⟩
    rcases carried_of_upsert entriesOrdered read planned with ⟨id, carried⟩
    exact ⟨fetched, _, scopes.items, id, replaces, read, carried⟩
  · intro value now sent ending later runs ordered write write_mem isWrite
    have always : (directory.removeScope applicationId value).Ensures (fun _ _ => True) _ :=
      removeScope_writes
    have writes := always.of_runs runs fun _ _ => trivial
    rcases writes.exists_fetched ordered write_mem isWrite with
      ⟨fetched, scopes, _, read, entriesOrdered, ⟨plan, planned, step, step_mem, rfl⟩, replaces⟩
    rcases carried_of_removal entriesOrdered read planned step_mem with
      ⟨named, target, isNamed, isTarget, carried⟩
    rw [Text.trim_trim] at isNamed
    exact ⟨fetched, _, scopes.items, named, target, replaces, read, isNamed, isTarget, carried⟩

/-- An entry that writes its consenter as an object and has a member that no field is made for. -/
def sampleEntry : Json :=
  .object [("id", .string "s1"), ("isEnabled", .bool true), ("origin", .string "Application"),
    ("type", .object [("Admin", .null)]), ("value", .string "read")]

def sampleEntryScope : Scope where
  id := "s1"
  value := "read"
  isEnabled := true
  consenter := .admin
  adminConsentDisplayName := none
  adminConsentDescription := none
  userConsentDisplayName := none
  userConsentDescription := none
  extra := [("origin", .string "Application")]

def sampleHolder : Json :=
  .object [("api", .object [("oauth2PermissionScopes", .array [sampleEntry])]),
    ("id", .string "a1")]

/-- A run that starts at a replica that holds an application with that entry. -/
def sampleHolding : Run Replica :=
  ⟨(Replica.empty ⟨fun _ => "new", 0⟩).withDocument "https://directory/applications/a1"
    sampleHolder, ⟨fun _ => "s2", 0⟩, []⟩

def sampleAddition : ScopeSpec :=
  { value := "write", adminConsentDisplayName := some "Write"
    adminConsentDescription := some "Write all" }

/-- The exchanges of a run that fetches the entry and writes certain scopes one after the other. -/
def sampleExchanges (written : List (List Scope)) : List Exchange :=
  ⟨readRequest ⟨"https://directory", 1⟩ ItemSet.permissionScopes "a1", .ok sampleHolder⟩ ::
    written.map fun scopes =>
      ⟨writeRequest ⟨"https://directory", 1⟩ ItemSet.permissionScopes "a1" ⟨scopes⟩, .ok .null⟩

theorem orderedAnswers_sampleExchanges (written : List (List Scope)) :
    OrderedAnswers (sampleExchanges written) := by
  have holderOrdered : sampleHolder.Ordered := by decide
  rintro exchange exchange_mem document isAnswer
  rcases List.mem_cons.mp exchange_mem with rfl | write_mem
  · rwa [← Except.ok.inj isAnswer]
  · rcases List.mem_map.mp write_mem with ⟨_, _, rfl⟩
    rw [← Except.ok.inj isAnswer]
    trivial

theorem upsertScope_exchanges_sample :
    ((⟨"https://directory", 1⟩ : Directory).upsertScope " a1" sampleAddition).exchanges
        Client.replica sampleHolding =
      sampleExchanges [[sampleEntryScope, Specification.build sampleAddition "s2"]] := by
  rfl

theorem removeScope_exchanges_sample :
    ((⟨"https://directory", 1⟩ : Directory).removeScope "a1" " read").exchanges
        Client.replica sampleHolding =
      sampleExchanges [[Item.setEnabled false sampleEntryScope], []] := by
  rfl

/-- An addition and a removal carry over what they are not about. -/
theorem scopeWrites_carry_untouched_sample :
    (∀ write ∈ sampleExchanges [[sampleEntryScope, Specification.build sampleAddition "s2"]],
      write.isWrite = true → ∃ fetched written scopes id,
        ReplacesScopes ⟨"https://directory", 1⟩ "a1"
          (sampleExchanges [[sampleEntryScope, Specification.build sampleAddition "s2"]]) write
          fetched written ∧
        Json.readAll? decode? fetched = some scopes ∧
        Scope.Carried (scopes.find? fun scope => scope.value = "write")
          (some (Specification.build sampleAddition id)) fetched written) ∧
      ∀ write ∈ sampleExchanges [[Item.setEnabled false sampleEntryScope], []],
        write.isWrite = true → ∃ fetched written scopes named target,
          ReplacesScopes ⟨"https://directory", 1⟩ "a1"
            (sampleExchanges [[Item.setEnabled false sampleEntryScope], []]) write fetched
            written ∧
          Json.readAll? decode? fetched = some scopes ∧
          (scopes.find? fun scope => scope.value = "read") = some named ∧
          (scopes.find? fun scope => scope.id = Text.trim named.id) = some target ∧
          (Scope.Carried (some target) (some (Item.setEnabled false target)) fetched written ∨
            Scope.Carried (some target) none fetched written) := by
  constructor
  · exact (scopeWrites_carry_untouched ⟨"https://directory", 1⟩ Client.replica " a1").1
      sampleAddition sampleHolding _ _ _ (Program.runs_of_exchanges upsertScope_exchanges_sample)
      (orderedAnswers_sampleExchanges _)
  · exact (scopeWrites_carry_untouched ⟨"https://directory", 1⟩ Client.replica "a1").2
      " read" sampleHolding _ _ _ (Program.runs_of_exchanges removeScope_exchanges_sample)
      (orderedAnswers_sampleExchanges _)

/-- The entry beside the added one comes back with another value of its consenter. -/
theorem upsertScope_rewrites_consenter :
    ∃ fetched written write entry back,
      write ∈ ((⟨"https://directory", 1⟩ : Directory).upsertScope " a1" sampleAddition).exchanges
        Client.replica sampleHolding ∧
      ReplacesScopes ⟨"https://directory", 1⟩ "a1"
        (((⟨"https://directory", 1⟩ : Directory).upsertScope " a1" sampleAddition).exchanges
          Client.replica sampleHolding) write fetched written ∧
      fetched = [entry] ∧ written.head? = some back ∧
      entry.get? "value" = some (.string "read") ∧ sampleAddition.value ≠ "read" ∧
      entry.get? "type" = some (.object [("Admin", .null)]) ∧
      back.get? "type" = some (.string "Admin") := by
  rw [upsertScope_exchanges_sample]
  let scopes : List Scope := [sampleEntryScope, Specification.build sampleAddition "s2"]
  let write : Exchange :=
    ⟨writeRequest ⟨"https://directory", 1⟩ ItemSet.permissionScopes "a1" ⟨scopes⟩, .ok .null⟩
  have replaces : ReplacesScopes ⟨"https://directory", 1⟩ "a1" (sampleExchanges [scopes]) write
      [sampleEntry] (scopes.map encode) := ⟨⟨sampleHolder, rfl, rfl⟩, "a1", rfl⟩
  exact ⟨_, _, write, sampleEntry, encode sampleEntryScope,
    by simp [sampleExchanges, write, scopes], replaces, rfl, rfl, rfl, by decide, rfl, rfl⟩

end Directory

end Provision
