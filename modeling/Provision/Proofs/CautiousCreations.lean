import Provision.Proofs.BlueprintPrincipals
import Provision.Proofs.Namesakes

/-!
# Creations that mind their namesakes

Blueprints and agent identities are created and deleted, each run from what the
ones before it left, and any request may fail.  A creation under a policy other
than creating one anyway either stores a resource without a namesake or stores
nothing, so that a directory without namesakes stays one.  A creation that finds
a namesake refuses or keeps it, as its policy says.
-/

namespace Provision

open Replica (Documents IsSegment HoldsSame Calm)

namespace Namesake

/-- What a policy decides from the namesakes that were found. -/
inductive Decided {Element : Type} (policy : Policy) (name : String) (namesakes : List Element)
    (idOf : Element → String) : Except PlanError Decision → Prop where
  | refused (isFail : policy = .fail) (taken : namesakes ≠ []) :
      Decided policy name namesakes idOf (.error (.nameTaken name namesakes.length))
  | kept {first : Element} {others : List Element} (isSkip : policy = .skip)
      (taken : namesakes = first :: others) :
      Decided policy name namesakes idOf (.ok (.reuse (idOf first)))
  | free (untaken : policy ≠ .createAnyway → namesakes = []) :
      Decided policy name namesakes idOf (.ok .create)

theorem decided {Element : Type} (policy : Policy) (name : String) (namesakes : List Element)
    (idOf : Element → String) :
    Decided policy name namesakes idOf (policy.decide name (namesakes.map idOf)) := by
  cases namesakes with
  | nil => cases policy <;> exact .free fun _ => rfl
  | cons first others =>
      cases policy with
      | fail => simpa [Policy.decide] using Decided.refused rfl (List.cons_ne_nil first others)
      | skip => exact .kept rfl rfl
      | createAnyway => exact .free fun cautious => absurd rfl cautious

/-- A creation that looks for namesakes of its resource before it writes: when it rejects its
arguments, what it lists, what it does with a namesake and what it returns for one that it keeps. -/
structure Creation (Element Created : Type) where
  rejects : PlanError → Prop
  listing : Request
  what : String
  policy : Policy
  name : String
  keep : Element → Created

namespace Creation

variable {Element Created : Type} (creation : Creation Element Created)

/-- What a creation comes to that finds a namesake: its arguments are rejected, its one request is
refused, or it is settled as its policy says. -/
inductive Settled (disturbed : Prop) (namesake : Element) :
    List Exchange → Ending OperationError Created → Prop where
  | rejected {error : PlanError} (rejection : creation.rejects error) :
      Settled disturbed namesake [] (.failed (.plan error))
  | unread {cause : RemoteError} (isDisturbed : disturbed) :
      Settled disturbed namesake [⟨creation.listing, .error cause⟩]
        (.failed (.read creation.what cause))
  | refused {answer : Json} (isFail : creation.policy = .fail) :
      Settled disturbed namesake [⟨creation.listing, .ok answer⟩]
        (.failed (.plan (.nameTaken creation.name 1)))
  | kept {answer : Json} (isSkip : creation.policy = .skip) :
      Settled disturbed namesake [⟨creation.listing, .ok answer⟩]
        (.returned (creation.keep namesake))

/-- How a creation goes on that finds certain namesakes on its list. -/
inductive Course (schedule : Nat → Option RemoteError) (namesakes : List Element)
    (creates : Replica → Ending OperationError Created → Replica → Prop)
    (earlier later : Replica) : List Exchange → Ending OperationError Created → Prop where
  | rejected {error : PlanError} (same : HoldsSame earlier later)
      (rejection : creation.rejects error) :
      Course schedule namesakes creates earlier later [] (.failed (.plan error))
  | unread {cause : RemoteError} (same : HoldsSame earlier later)
      (disturbed : Calm schedule earlier →
        ∃ refusal, earlier.read (.ofUrl creation.listing.url) = .error refusal) :
      Course schedule namesakes creates earlier later [⟨creation.listing, .error cause⟩]
        (.failed (.read creation.what cause))
  | refused {answer : Json} (same : HoldsSame earlier later) (isFail : creation.policy = .fail)
      (taken : namesakes ≠ []) :
      Course schedule namesakes creates earlier later [⟨creation.listing, .ok answer⟩]
        (.failed (.plan (.nameTaken creation.name namesakes.length)))
  | kept {answer : Json} {first : Element} {others : List Element} (same : HoldsSame earlier later)
      (isSkip : creation.policy = .skip) (taken : namesakes = first :: others) :
      Course schedule namesakes creates earlier later [⟨creation.listing, .ok answer⟩]
        (.returned (creation.keep first))
  | created {answer : Json} {rest : List Exchange} {ending : Ending OperationError Created}
      {state : Replica} (same : HoldsSame earlier state)
      (free : creation.policy ≠ .createAnyway → namesakes = [])
      (made : creates state ending later) :
      Course schedule namesakes creates earlier later (⟨creation.listing, .ok answer⟩ :: rest)
        ending

variable {schedule : Nat → Option RemoteError} {namesakes : List Element} {first : Element}
  {creates : Replica → Ending OperationError Created → Replica → Prop} {earlier later : Replica}
  {sent : List Exchange} {ending : Ending OperationError Created} {creation}

/-- A creation minds its namesakes: if there is one it sends no write and is settled with it, and
what it returns otherwise is on the list. -/
structure Minds (creation : Creation Element Created) (disturbed : Prop) (namesakes : List Element)
    (listed : Created → Prop) (sent : List Exchange) (ending : Ending OperationError Created) :
    Prop where
  settled : ∀ first, namesakes.head? = some first →
    (∀ exchange ∈ sent, exchange.isWrite = false) ∧ creation.Settled disturbed first sent ending
  listed : namesakes = [] → ∀ created, ending = .returned created → listed created

theorem Settled.no_write {disturbed : Prop} (settled : creation.Settled disturbed first sent ending)
    (reads : creation.listing.isWrite = false) :
    ∀ exchange ∈ sent, exchange.isWrite = false := by
  cases settled with
  | rejected => simp
  | unread | refused | kept =>
      intro exchange exchange_mem
      rw [List.mem_singleton.mp exchange_mem]
      exact reads

/-- With one namesake on a list that can be read, the course of a creation is settled. -/
theorem Course.settled
    (course : creation.Course schedule namesakes creates earlier later sent ending)
    (cautious : creation.policy ≠ .createAnyway) (only : namesakes = [first])
    (readable : ∀ refusal, earlier.read (.ofUrl creation.listing.url) ≠ .error refusal) :
    creation.Settled (¬Calm schedule earlier) first sent ending := by
  subst only
  cases course with
  | rejected _ rejection => exact .rejected rejection
  | unread _ disturbed =>
      apply Settled.unread
      intro calm
      obtain ⟨refusal, refused⟩ := disturbed calm
      exact readable refusal refused
  | refused _ isFail => exact .refused isFail
  | kept _ isSkip taken =>
      obtain ⟨rfl, rfl⟩ := List.cons.inj taken
      exact .kept isSkip
  | created _ free => exact absurd (free cautious) (List.cons_ne_nil _ _)

/-- A creation that has listed its namesakes takes the course that its policy decides. -/
theorem Course.of_decision {now last : Run Replica} {state : Replica} {answer : Json}
    {rest : List Exchange} {idOf : Element → String}
    {next : Decision → Program OperationError Created} (same : HoldsSame now.state state)
    (decides : ((liftM (creation.policy.decide creation.name (namesakes.map idOf)) :
      Program OperationError Decision) >>= next).Runs (Client.interrupted schedule)
        { now with state } rest ending last)
    (keeps : ∀ first others, namesakes = first :: others →
      (next (.reuse (idOf first))).Runs (Client.interrupted schedule) { now with state } rest ending
        last → rest = [] ∧ ending = .returned (creation.keep first) ∧ last.state = state)
    (makes : (next .create).Runs (Client.interrupted schedule) { now with state } rest ending last →
      creates state ending last.state) :
    creation.Course schedule namesakes creates now.state last.state
      (⟨creation.listing, .ok answer⟩ :: rest) ending := by
  have outcome := decided creation.policy creation.name namesakes idOf
  rcases decides.of_check with ⟨error, refused, rfl, rfl, rfl⟩ | ⟨decision, accepted, goesOn⟩
  · rw [refused] at outcome
    cases outcome with
    | refused isFail taken => exact .refused same isFail taken
  rw [accepted] at outcome
  cases outcome with
  | kept isSkip taken =>
      obtain ⟨rfl, rfl, rfl⟩ := keeps _ _ taken goesOn
      exact .kept same isSkip taken
  | free untaken => exact .created same untaken (makes goesOn)

end Creation

end Namesake

namespace Directory

variable {directory : Directory} {schedule : Nat → Option RemoteError} {now last : Run Replica}
  {sent : List Exchange}

/-- The creation of a blueprint. -/
def blueprintCreation (directory : Directory) (displayName : String)
    (sponsorIds ownerIds : List String) (policy : Namesake.Policy) :
    Namesake.Creation Blueprint BlueprintCreated where
  rejects error := Argument.required "display_name" displayName = .error error ∨
    Argument.each "sponsor_ids" sponsorIds = .error error ∨
    Argument.all "owner_ids" ownerIds = .error error
  listing := ⟨.get, directory.url blueprintsPath, none⟩
  what := "agent identity blueprints"
  policy
  name := Text.trim displayName
  keep blueprint := ⟨blueprint.id, blueprint.appId, Text.trim displayName, none, true⟩

/-- The creation of an agent identity. -/
def agentIdentityCreation (directory : Directory) (blueprintAppId displayName : String)
    (sponsorIds : List String) (policy : Namesake.Policy) :
    Namesake.Creation AgentIdentity AgentIdentityCreated where
  rejects error := Argument.required "blueprint_app_id" blueprintAppId = .error error ∨
    Argument.required "display_name" displayName = .error error ∨
    Argument.each "sponsor_ids" sponsorIds = .error error
  listing := ⟨.get, directory.url "servicePrincipals/microsoft.graph.agentIdentity", none⟩
  what := "agent identities"
  policy
  name := Text.trim displayName
  keep identity :=
    ⟨identity.id, identity.appId, Text.trim displayName, Text.trim blueprintAppId, true⟩

/-- The blueprints that have a certain name. -/
def blueprintsNamed (directory : Directory) (replica : Replica) (displayName : String) :
    List Blueprint :=
  (directory.blueprints replica).filter fun blueprint => sameName blueprint.displayName displayName

/-- The agent identities of a blueprint that have a certain name. -/
def agentIdentitiesNamed (directory : Directory) (replica : Replica)
    (blueprintAppId displayName : String) : List AgentIdentity :=
  let siblings := (directory.agentIdentities replica).filter fun identity =>
    identity.belongsTo (Text.trim blueprintAppId)
  siblings.filter fun identity => sameName identity.displayName displayName

/-- What the writes of the creation of a blueprint come to. -/
inductive BlueprintMade (directory : Directory) (name : String) (earlier : Replica) :
    Ending OperationError BlueprintCreated → Replica → Prop where
  | refused {cause : RemoteError} {later : Replica}
      (documents : later.documents = earlier.documents) :
      BlueprintMade directory name earlier
        (.failed (.write ⟨name, none, none, .absent⟩ cause)) later
  | halfway {blueprint : Blueprint} {cause : RemoteError} {later : Replica}
      (first : directory.StoresBlueprint name blueprint earlier.documents later.documents) :
      BlueprintMade directory name earlier
        (.failed (.write ⟨name, some blueprint.id, none, .present none⟩ cause)) later
  | made {blueprint : Blueprint} {principalId : Option String} {middle : Documents}
      {later : Replica}
      (first : directory.StoresBlueprint name blueprint earlier.documents middle)
      (second : directory.StoresPrincipal middle later.documents) :
      BlueprintMade directory name earlier
        (.returned ⟨blueprint.id, blueprint.appId, name, principalId, false⟩) later

/-- What the write of the creation of an agent identity comes to. -/
inductive AgentIdentityMade (directory : Directory) (blueprintAppId name : String)
    (earlier : Replica) : Ending OperationError AgentIdentityCreated → Replica → Prop where
  | refused {cause : RemoteError} {later : Replica}
      (documents : later.documents = earlier.documents) :
      AgentIdentityMade directory blueprintAppId name earlier
        (.failed (.write ⟨name, none, none, .absent⟩ cause)) later
  | made {identity : AgentIdentity} {later : Replica}
      (stores : directory.StoresAgentIdentity blueprintAppId name identity earlier.documents
        later.documents) :
      AgentIdentityMade directory blueprintAppId name earlier
        (.returned ⟨identity.id, identity.appId, name, blueprintAppId, false⟩) later

theorem brings_listBlueprints (noQuery : '?' ∉ directory.base.toList)
    (paged : directory.pageLimit ≠ 0) (noNamesakes : directory.NoNamesakes now.state) :
    Brings (directory.listBlueprints none) ⟨.get, directory.url blueprintsPath, none⟩
      "agent identity blueprints" schedule now (directory.blueprints now.state) := by
  apply Brings.change id
  apply brings_readPages _ paged
  · rw [Replica.document?, ofUrl_blueprints noQuery]
    exact noNamesakes.noApplication
  · rw [ofUrl_blueprints noQuery]
    exact noNamesakes.blueprints.readAll?_eq

theorem createBlueprint_course {displayName : String} {sponsorIds ownerIds : List String}
    {policy : Namesake.Policy} {ending : Ending OperationError BlueprintCreated}
    (noQuery : '?' ∉ directory.base.toList) (paged : directory.pageLimit ≠ 0)
    (noNamesakes : directory.NoNamesakes now.state)
    (runs : (directory.createBlueprint displayName sponsorIds ownerIds policy).Runs
      (Client.interrupted schedule) now sent ending last) :
    (directory.blueprintCreation displayName sponsorIds ownerIds policy).Course schedule
      (directory.blueprintsNamed now.state displayName)
      (directory.BlueprintMade (Text.trim displayName)) now.state last.state sent ending := by
  rcases runs.of_check with ⟨_, refused, rfl, rfl, rfl⟩ | ⟨name, accepted, sponsored⟩
  · exact .rejected ⟨rfl, rfl, rfl⟩ (.inl refused)
  obtain ⟨rfl, -⟩ := Argument.eq_trim_of_required accepted
  rcases sponsored.of_check with ⟨_, refused, rfl, rfl, rfl⟩ | ⟨sponsors, -, owned⟩
  · exact .rejected ⟨rfl, rfl, rfl⟩ (.inr (.inl refused))
  rcases owned.of_check with ⟨_, refused, rfl, rfl, rfl⟩ | ⟨owners, -, lists⟩
  · exact .rejected ⟨rfl, rfl, rfl⟩ (.inr (.inr refused))
  rcases (brings_listBlueprints noQuery paged noNamesakes).of_bind lists with
    ⟨cause, rfl, rfl, same, disturbed⟩ | ⟨answer, state, rest, rfl, same, -, decides⟩
  · exact .unread same disturbed
  simp only [sameName_trim] at decides
  refine Namesake.Creation.Course.of_decision same decides ?_ ?_
  · intro first others taken keeps
    have found : ((directory.blueprintsNamed now.state displayName).find? fun blueprint =>
        blueprint.id = first.id) = some first := by
      simp [taken]
    rw [blueprintsNamed] at found
    simp only [found] at keeps
    obtain ⟨rfl, rfl, rfl⟩ := keeps.of_progress.unique Program.runs_done
    exact ⟨rfl, rfl, rfl⟩
  · intro creates
    rcases Replica.handled_of_runs creates.of_progress with
      ⟨error, rfl, documents, -⟩ | ⟨requests, failures, document, written, rest, posts, decodes⟩
    · exact .refused documents
    · obtain ⟨blueprint, decoded, stores⟩ := storesBlueprint_of_handle_post noQuery posts
      simp only [decoded] at decodes
      rcases Replica.handled_of_runs decodes.of_progress with
        ⟨error, rfl, documents, -⟩ | ⟨requests, failures, principal, _, _, posts, returns⟩
      · exact .halfway (documents ▸ stores)
      · have principalStored := storesPrincipal_of_handle_post noQuery posts
        obtain ⟨-, rfl, rfl⟩ := returns.unique Program.runs_done
        exact .made stores principalStored

theorem brings_listAgentIdentities {blueprintAppId : String} (given : blueprintAppId ≠ "")
    (trimmed : Text.trim blueprintAppId = blueprintAppId)
    (noQuery : '?' ∉ directory.base.toList)
    (paged : directory.pageLimit ≠ 0) (noNamesakes : directory.NoNamesakes now.state) :
    Brings (directory.listAgentIdentities (some blueprintAppId))
      ⟨.get, directory.url "servicePrincipals/microsoft.graph.agentIdentity", none⟩
      "agent identities" schedule now ((directory.agentIdentities now.state).filter
        fun identity => identity.belongsTo blueprintAppId) := by
  have all : Brings (directory.list decode? "agent identities"
      "servicePrincipals/microsoft.graph.agentIdentity")
      ⟨.get, directory.url "servicePrincipals/microsoft.graph.agentIdentity", none⟩
      "agent identities" schedule now (directory.agentIdentities now.state) := by
    apply brings_readPages _ paged
    · rw [Replica.document?, ofUrl_agentIdentities noQuery]
      exact noNamesakes.noServicePrincipal
    · rw [ofUrl_agentIdentities noQuery]
      exact noNamesakes.agentIdentities.readAll?_eq
  have nonBlank : (some blueprintAppId).bind Text.nonBlank? = some blueprintAppId := by
    simp [Text.nonBlank?, trimmed, given]
  rw [listAgentIdentities]
  simp only [nonBlank]
  exact all.change _

theorem createAgentIdentity_course {blueprintAppId displayName : String} {sponsorIds : List String}
    {policy : Namesake.Policy} {ending : Ending OperationError AgentIdentityCreated}
    (noQuery : '?' ∉ directory.base.toList) (paged : directory.pageLimit ≠ 0)
    (noNamesakes : directory.NoNamesakes now.state)
    (runs : (directory.createAgentIdentity blueprintAppId displayName sponsorIds policy).Runs
      (Client.interrupted schedule) now sent ending last) :
    (directory.agentIdentityCreation blueprintAppId displayName sponsorIds policy).Course schedule
      (directory.agentIdentitiesNamed now.state blueprintAppId displayName)
      (directory.AgentIdentityMade (Text.trim blueprintAppId) (Text.trim displayName)) now.state
      last.state sent ending := by
  rcases runs.of_check with ⟨_, refused, rfl, rfl, rfl⟩ | ⟨blueprint, identified, named⟩
  · exact .rejected ⟨rfl, rfl, rfl⟩ (.inl refused)
  obtain ⟨rfl, given⟩ := Argument.eq_trim_of_required identified
  rcases named.of_check with ⟨_, refused, rfl, rfl, rfl⟩ | ⟨name, accepted, sponsored⟩
  · exact .rejected ⟨rfl, rfl, rfl⟩ (.inr (.inl refused))
  obtain ⟨rfl, -⟩ := Argument.eq_trim_of_required accepted
  rcases sponsored.of_check with ⟨_, refused, rfl, rfl, rfl⟩ | ⟨sponsors, -, lists⟩
  · exact .rejected ⟨rfl, rfl, rfl⟩ (.inr (.inr refused))
  rcases (brings_listAgentIdentities given (Text.trim_trim _) noQuery paged noNamesakes).of_bind
    lists with ⟨cause, rfl, rfl, same, disturbed⟩ | ⟨answer, state, rest, rfl, same, -, decides⟩
  · exact .unread same disturbed
  simp only [sameName_trim] at decides
  refine Namesake.Creation.Course.of_decision same decides ?_ ?_
  · intro first others taken keeps
    have found : ((directory.agentIdentitiesNamed now.state blueprintAppId displayName).find?
        fun identity => identity.id = first.id) = some first := by
      simp [taken]
    simp only [agentIdentitiesNamed] at found
    simp only [found] at keeps
    obtain ⟨rfl, rfl, rfl⟩ := keeps.of_progress.unique Program.runs_done
    exact ⟨rfl, rfl, rfl⟩
  · intro creates
    rcases Replica.handled_of_runs creates.of_progress with
      ⟨error, rfl, documents, -⟩ | ⟨requests, failures, document, written, rest, posts, decodes⟩
    · exact .refused documents
    · obtain ⟨identity, decoded, stores⟩ := storesAgentIdentity_of_handle_post noQuery posts
      simp only [decoded] at decodes
      obtain ⟨-, rfl, rfl⟩ := decodes.unique Program.runs_done
      exact .made stores

variable {earlier later replica : Replica} {displayName blueprintAppId : String}

theorem blueprints_congr (documents : later.documents = earlier.documents) :
    directory.blueprints later = directory.blueprints earlier := by
  rw [blueprints, blueprints, blueprintDocuments, blueprintDocuments, Replica.children,
    Replica.children, documents]

theorem agentIdentities_congr (documents : later.documents = earlier.documents) :
    directory.agentIdentities later = directory.agentIdentities earlier := by
  rw [agentIdentities, agentIdentities, agentIdentityDocuments, agentIdentityDocuments,
    Replica.children, Replica.children, documents]

namespace NoNamesakes

theorem of_unchanged (noNamesakes : directory.NoNamesakes earlier)
    (documents : later.documents = earlier.documents) : directory.NoNamesakes later := by
  apply noNamesakes.of_fewer
  rw [documents]

theorem of_blueprintMade {ending : Ending OperationError BlueprintCreated}
    (noNamesakes : directory.NoNamesakes earlier) (noQuery : '?' ∉ directory.base.toList)
    (free : directory.blueprintsNamed earlier displayName = [])
    (made : directory.BlueprintMade (Text.trim displayName) earlier ending later) :
    directory.NoNamesakes later := by
  have new {blueprint : Blueprint} (named : blueprint.displayName = Text.trim displayName) :
      ∀ other ∈ directory.blueprints earlier, other.isNamesake blueprint = false := by
    intro other other_mem
    rw [Blueprint.isNamesake, named, sameName_trim]
    simpa using List.filter_eq_nil_iff.mp free other other_mem
  cases made with
  | refused documents => exact noNamesakes.of_unchanged documents
  | halfway first =>
      obtain ⟨named, document, decoded, adds⟩ := first
      exact noNamesakes.addBlueprint noQuery adds decoded (new named)
  | @made blueprint _ middle _ first second =>
      obtain ⟨named, document, decoded, adds⟩ := first
      have between : directory.NoNamesakes { earlier with documents := middle } :=
        noNamesakes.addBlueprint noQuery adds decoded (new named)
      obtain ⟨id, principal, addsPrincipal⟩ := second
      exact between.addPrincipal noQuery addsPrincipal

theorem of_agentIdentityMade {ending : Ending OperationError AgentIdentityCreated}
    (noNamesakes : directory.NoNamesakes earlier) (noQuery : '?' ∉ directory.base.toList)
    (free : directory.agentIdentitiesNamed earlier blueprintAppId displayName = [])
    (made : directory.AgentIdentityMade (Text.trim blueprintAppId) (Text.trim displayName) earlier
      ending later) : directory.NoNamesakes later := by
  cases made with
  | refused documents => exact noNamesakes.of_unchanged documents
  | @made identity _ stores =>
      obtain ⟨named, ofBlueprint, document, decoded, adds⟩ := stores
      apply noNamesakes.addAgentIdentity noQuery adds decoded
      intro other other_mem
      by_cases sibling : other.belongsTo (Text.trim blueprintAppId) = true
      · have different := List.filter_eq_nil_iff.mp free other
          (List.mem_filter.mpr ⟨other_mem, sibling⟩)
        rw [AgentIdentity.isNamesake, named, sameName_trim, Bool.and_eq_false_iff]
        exact .inr (by simpa using different)
      · rw [AgentIdentity.isNamesake_comm, AgentIdentity.isNamesake, ofBlueprint]
        simp [sibling]

variable (noNamesakes : directory.NoNamesakes now.state) (noQuery : '?' ∉ directory.base.toList)
  (paged : directory.pageLimit ≠ 0)
include noNamesakes

theorem of_course {Element Created : Type} {creation : Namesake.Creation Element Created}
    {namesakes : List Element} {creates : Replica → Ending OperationError Created → Replica → Prop}
    {ending : Ending OperationError Created} (cautious : creation.policy ≠ .createAnyway)
    (course : creation.Course schedule namesakes creates now.state last.state sent ending)
    (made : ∀ state : Replica, state.documents = now.state.documents → namesakes = [] →
      creates state ending last.state → directory.NoNamesakes last.state) :
    directory.NoNamesakes last.state := by
  cases course with
  | rejected same => exact noNamesakes.of_unchanged same.documents
  | unread same => exact noNamesakes.of_unchanged same.documents
  | refused same => exact noNamesakes.of_unchanged same.documents
  | kept same => exact noNamesakes.of_unchanged same.documents
  | created same free creates => exact made _ same.documents (free cautious) creates

include noQuery paged

theorem after_createBlueprint {sponsorIds ownerIds : List String} {policy : Namesake.Policy}
    {ending : Ending OperationError BlueprintCreated} (cautious : policy ≠ .createAnyway)
    (runs : (directory.createBlueprint displayName sponsorIds ownerIds policy).Runs
      (Client.interrupted schedule) now sent ending last) : directory.NoNamesakes last.state := by
  apply noNamesakes.of_course cautious (createBlueprint_course noQuery paged noNamesakes runs)
  intro state documents free made
  apply (noNamesakes.of_unchanged documents).of_blueprintMade noQuery _ made
  rwa [blueprintsNamed, blueprints_congr documents]

theorem after_createAgentIdentity {sponsorIds : List String} {policy : Namesake.Policy}
    {ending : Ending OperationError AgentIdentityCreated} (cautious : policy ≠ .createAnyway)
    (runs : (directory.createAgentIdentity blueprintAppId displayName sponsorIds policy).Runs
      (Client.interrupted schedule) now sent ending last) : directory.NoNamesakes last.state := by
  apply noNamesakes.of_course cautious (createAgentIdentity_course noQuery paged noNamesakes runs)
  intro state documents free made
  apply (noNamesakes.of_unchanged documents).of_agentIdentityMade noQuery _ made
  rwa [agentIdentitiesNamed, agentIdentities_congr documents]

omit noQuery paged

/-- Whatever is deleted, no namesake is left by it. -/
theorem after_deletion {check : Except PlanError String} {resource : String}
    {message reported url : String → String} {ending : Ending OperationError Deleted}
    (runs : ((liftM check : Program OperationError String) >>= fun id =>
      Deleted.announced (message id) resource id ⟨.delete, url id, none⟩ (reported id)).Runs
        (Client.interrupted schedule) now sent ending last) :
    directory.NoNamesakes last.state := by
  rcases runs.of_check with ⟨_, -, -, -, rfl⟩ | ⟨_, -, deletes⟩
  · exact noNamesakes
  have fewer := Replica.fewer_of_deletion rfl deletes.of_progress
  exact noNamesakes.of_fewer fewer

end NoNamesakes

/-- A list that is not empty is brought when it is read. -/
theorem read_ne_error {url : String} (noDocument : replica.document? url = none)
    (listed : replica.children (.ofUrl url) ≠ []) (refusal : Nat × Json) :
    replica.read (.ofUrl url) ≠ .error refusal := by
  intro refused
  rcases Replica.read_list noDocument with brought | ⟨-, nothing⟩
  · simp [refused] at brought
  · exact listed nothing

theorem eq_singleton_of_head? {Element : Type} {elements : List Element} {first : Element}
    (few : elements.length ≤ 1) (isFirst : elements.head? = some first) : elements = [first] := by
  cases elements with
  | nil => simp at isFirst
  | cons head rest =>
      obtain rfl : head = first := by simpa using isFirst
      obtain rfl : rest = [] := by simpa using few
      rfl

variable (noNamesakes : directory.NoNamesakes now.state) (noQuery : '?' ∉ directory.base.toList)
  (paged : directory.pageLimit ≠ 0)
include noNamesakes noQuery paged

theorem createBlueprint_minds {sponsorIds ownerIds : List String} {policy : Namesake.Policy}
    {ending : Ending OperationError BlueprintCreated} (cautious : policy ≠ .createAnyway)
    (runs : (directory.createBlueprint displayName sponsorIds ownerIds policy).Runs
      (Client.interrupted schedule) now sent ending last) :
    (directory.blueprintCreation displayName sponsorIds ownerIds policy).Minds
      (¬Calm schedule now.state) (directory.blueprintsNamed now.state displayName)
      (fun created => IsSegment created.objectId → ∃ blueprint ∈ directory.blueprints last.state,
        blueprint.id = created.objectId ∧ blueprint.displayName = Text.trim displayName)
      sent ending := by
  have course := createBlueprint_course noQuery paged noNamesakes runs
  constructor
  · intro first isFirst
    have few : (directory.blueprintsNamed now.state displayName).length ≤ 1 := by
      apply noNamesakes.blueprints.length_filter_le_one
      intro left right isLeft isRight
      exact sameName_of_both isLeft isRight
    have only := eq_singleton_of_head? few isFirst
    have listed : now.state.children (.ofUrl (directory.url blueprintsPath)) ≠ [] := by
      intro nothing
      rw [ofUrl_blueprints noQuery] at nothing
      simp [blueprintsNamed, blueprints, blueprintDocuments, nothing] at isFirst
    have noDocument : now.state.document? (directory.url blueprintsPath) = none := by
      rw [Replica.document?, ofUrl_blueprints noQuery]
      exact noNamesakes.noApplication
    have settled := course.settled cautious only (read_ne_error noDocument listed)
    exact ⟨settled.no_write rfl, settled⟩
  · rintro unnamed created rfl segment
    cases course with
    | kept _ _ taken => simp [taken] at unnamed
    | created _ _ made =>
        cases made with
        | @made blueprint _ _ _ first second =>
            exact ⟨blueprint, first.listed noQuery segment (.inr second), rfl, first.named⟩

theorem createAgentIdentity_minds {sponsorIds : List String} {policy : Namesake.Policy}
    {ending : Ending OperationError AgentIdentityCreated} (cautious : policy ≠ .createAnyway)
    (runs : (directory.createAgentIdentity blueprintAppId displayName sponsorIds policy).Runs
      (Client.interrupted schedule) now sent ending last) :
    (directory.agentIdentityCreation blueprintAppId displayName sponsorIds policy).Minds
      (¬Calm schedule now.state)
      (directory.agentIdentitiesNamed now.state blueprintAppId displayName)
      (fun created => IsSegment created.objectId →
        ∃ identity ∈ directory.agentIdentities last.state, identity.id = created.objectId ∧
          identity.blueprintId = some (Text.trim blueprintAppId) ∧
          identity.displayName = Text.trim displayName) sent ending := by
  have course := createAgentIdentity_course noQuery paged noNamesakes runs
  constructor
  · intro first isFirst
    have few :
        (directory.agentIdentitiesNamed now.state blueprintAppId displayName).length ≤ 1 := by
      rw [agentIdentitiesNamed, List.filter_filter]
      apply noNamesakes.agentIdentities.length_filter_le_one
      intro left right isLeft isRight
      simp only [Bool.and_eq_true] at isLeft isRight
      rw [AgentIdentity.isNamesake, sameName_of_both isLeft.1 isRight.1, Bool.and_true]
      exact AgentIdentity.shareBlueprint isLeft.2 isRight.2
    have only := eq_singleton_of_head? few isFirst
    have listed : now.state.children
        (.ofUrl (directory.url "servicePrincipals/microsoft.graph.agentIdentity")) ≠ [] := by
      intro nothing
      rw [ofUrl_agentIdentities noQuery] at nothing
      simp [agentIdentitiesNamed, agentIdentities, agentIdentityDocuments, nothing] at isFirst
    have noDocument : now.state.document?
        (directory.url "servicePrincipals/microsoft.graph.agentIdentity") = none := by
      rw [Replica.document?, ofUrl_agentIdentities noQuery]
      exact noNamesakes.noServicePrincipal
    have settled := course.settled cautious only (read_ne_error noDocument listed)
    exact ⟨settled.no_write rfl, settled⟩
  · rintro unnamed created rfl segment
    cases course with
    | kept _ _ taken => simp [taken] at unnamed
    | created _ _ made =>
        cases made with
        | @made identity _ stores =>
            exact ⟨identity, stores.listed segment, rfl, stores.ofBlueprint, stores.named⟩

omit noNamesakes noQuery paged

/-- A run that creates or deletes a blueprint or an agent identity, and that creates none next to a
namesake. Any of its requests may fail, before it reaches the server or there. -/
inductive CautiousRun (directory : Directory) (schedule : Nat → Option RemoteError)
    (now : Run Replica) : Replica → Prop where
  | createBlueprint {displayName : String} {sponsorIds ownerIds : List String}
      {policy : Namesake.Policy} {sent : List Exchange}
      {ending : Ending OperationError BlueprintCreated} {last : Run Replica}
      (cautious : policy ≠ .createAnyway)
      (runs : (directory.createBlueprint displayName sponsorIds ownerIds policy).Runs
        (Client.interrupted schedule) now sent ending last) :
      CautiousRun directory schedule now last.state
  | createAgentIdentity {blueprintAppId displayName : String} {sponsorIds : List String}
      {policy : Namesake.Policy} {sent : List Exchange}
      {ending : Ending OperationError AgentIdentityCreated} {last : Run Replica}
      (cautious : policy ≠ .createAnyway)
      (runs : (directory.createAgentIdentity blueprintAppId displayName sponsorIds policy).Runs
        (Client.interrupted schedule) now sent ending last) :
      CautiousRun directory schedule now last.state
  | deleteBlueprint {objectId : String} {sent : List Exchange}
      {ending : Ending OperationError Deleted} {last : Run Replica}
      (runs : (directory.deleteBlueprint objectId).Runs (Client.interrupted schedule) now sent
        ending last) : CautiousRun directory schedule now last.state
  | deleteAgentIdentity {objectId : String} {sent : List Exchange}
      {ending : Ending OperationError Deleted} {last : Run Replica}
      (runs : (directory.deleteAgentIdentity objectId).Runs (Client.interrupted schedule) now sent
        ending last) : CautiousRun directory schedule now last.state

/-- Such runs one after the other, each from what the ones before it left. -/
inductive CautiousRuns (directory : Directory) (start : Replica) : Replica → Prop where
  | start : CautiousRuns directory start start
  | run {earlier later : Replica} {requests : List Request} {failures : List Failure}
      {ids : IdSupply} {messages : List String} {schedule : Nat → Option RemoteError}
      (before : CautiousRuns directory start earlier)
      (runs : CautiousRun directory schedule ⟨{ earlier with requests, failures }, ids, messages⟩
        later) : CautiousRuns directory start later

theorem NoNamesakes.after_run (noNamesakes : directory.NoNamesakes now.state)
    (noQuery : '?' ∉ directory.base.toList) (paged : directory.pageLimit ≠ 0)
    (run : directory.CautiousRun schedule now later) : directory.NoNamesakes later := by
  cases run with
  | createBlueprint cautious runs =>
      exact noNamesakes.after_createBlueprint noQuery paged cautious runs
  | createAgentIdentity cautious runs =>
      exact noNamesakes.after_createAgentIdentity noQuery paged cautious runs
  | deleteBlueprint runs | deleteAgentIdentity runs => exact noNamesakes.after_deletion runs

theorem NoNamesakes.after_runs {start : Replica} (noNamesakes : directory.NoNamesakes start)
    (noQuery : '?' ∉ directory.base.toList) (paged : directory.pageLimit ≠ 0)
    (history : directory.CautiousRuns start replica) : directory.NoNamesakes replica := by
  induction history with
  | start => exact noNamesakes
  | @run earlier _ requests failures _ _ _ before run ih =>
      have now : directory.NoNamesakes { earlier with requests, failures } := ih.of_unchanged rfl
      exact now.after_run noQuery paged run

/-- Creations that mind their namesakes leave none, whatever is created and deleted along with them
and wherever the runs fail; and each of them refuses or keeps the namesake that it meets. -/
theorem namesakes_never_created {start : Replica} (noQuery : '?' ∉ directory.base.toList)
    (paged : directory.pageLimit ≠ 0) (noNamesakes : directory.NoNamesakes start)
    (history : directory.CautiousRuns start replica) :
    directory.NoNamesakes replica ∧
    (∀ (displayName : String) (sponsorIds ownerIds : List String) (policy : Namesake.Policy)
      (schedule : Nat → Option RemoteError) (requests : List Request) (failures : List Failure)
      (ids : IdSupply) (messages : List String) (sent : List Exchange)
      (ending : Ending OperationError BlueprintCreated) (last : Run Replica),
      policy ≠ .createAnyway →
      (directory.createBlueprint displayName sponsorIds ownerIds policy).Runs
        (Client.interrupted schedule) ⟨{ replica with requests, failures }, ids, messages⟩ sent
        ending last →
      (directory.blueprintCreation displayName sponsorIds ownerIds policy).Minds
        (¬Calm schedule { replica with requests, failures })
        (directory.blueprintsNamed replica displayName)
        (fun created => IsSegment created.objectId → ∃ blueprint ∈ directory.blueprints last.state,
          blueprint.id = created.objectId ∧ blueprint.displayName = Text.trim displayName)
        sent ending) ∧
    ∀ (blueprintAppId displayName : String) (sponsorIds : List String) (policy : Namesake.Policy)
      (schedule : Nat → Option RemoteError) (requests : List Request) (failures : List Failure)
      (ids : IdSupply) (messages : List String) (sent : List Exchange)
      (ending : Ending OperationError AgentIdentityCreated) (last : Run Replica),
      policy ≠ .createAnyway →
      (directory.createAgentIdentity blueprintAppId displayName sponsorIds policy).Runs
        (Client.interrupted schedule) ⟨{ replica with requests, failures }, ids, messages⟩ sent
        ending last →
      (directory.agentIdentityCreation blueprintAppId displayName sponsorIds policy).Minds
        (¬Calm schedule { replica with requests, failures })
        (directory.agentIdentitiesNamed replica blueprintAppId displayName)
        (fun created => IsSegment created.objectId →
          ∃ identity ∈ directory.agentIdentities last.state, identity.id = created.objectId ∧
            identity.blueprintId = some (Text.trim blueprintAppId) ∧
            identity.displayName = Text.trim displayName) sent ending := by
  have kept := noNamesakes.after_runs noQuery paged history
  refine ⟨kept, ?_, ?_⟩
  · intro displayName sponsorIds ownerIds policy schedule requests failures ids messages sent ending
      last cautious runs
    have now : directory.NoNamesakes { replica with requests, failures } := kept.of_unchanged rfl
    exact createBlueprint_minds now noQuery paged cautious runs
  · intro blueprintAppId displayName sponsorIds policy schedule requests failures ids messages sent
      ending last cautious runs
    have now : directory.NoNamesakes { replica with requests, failures } := kept.of_unchanged rfl
    exact createAgentIdentity_minds now noQuery paged cautious runs

/-- The run that creates the first blueprint of the samples. -/
def firstCreation : Ending OperationError BlueprintCreated × Run Replica :=
  (payrollCreation .fail).run (Client.interrupted fun _ => none)
    ⟨{ emptyDirectory with requests := [], failures := [] }, countedIds, []⟩

/-- After a first creation there are no namesakes, and a second one for its name in other letters is
settled with the blueprint that the first one has created. -/
theorem namesakes_never_created_sample :
    sampleDirectory.NoNamesakes firstCreation.2.state ∧
      ∃ sent ending last,
        (sampleDirectory.createBlueprint " PAYROLL" ["user-2"] [] .skip).Runs
          (Client.interrupted fun _ => none)
          ⟨{ firstCreation.2.state with requests := [], failures := [] }, countedIds, []⟩ sent
          ending last ∧
        (sampleDirectory.blueprintCreation " PAYROLL" ["user-2"] [] .skip).Settled
          (¬Calm (fun _ => none) { firstCreation.2.state with requests := [], failures := [] })
          ⟨"i", "ii", "Payroll", none⟩ sent ending := by
  have noNamesakes : sampleDirectory.NoNamesakes emptyDirectory :=
    ⟨rfl, rfl, ⟨List.forall_mem_nil _, .nil⟩, ⟨List.forall_mem_nil _, .nil⟩⟩
  have history : sampleDirectory.CautiousRuns emptyDirectory firstCreation.2.state :=
    .run .start (.createBlueprint (by decide) (Program.runs_run _ _ _))
  obtain ⟨kept, blueprints, -⟩ :=
    namesakes_never_created (by decide) (by decide) noNamesakes history
  have isFirst : (sampleDirectory.blueprintsNamed firstCreation.2.state " PAYROLL").head? =
      some ⟨"i", "ii", "Payroll", none⟩ := by decide +kernel
  have runs := Program.runs_run (Client.interrupted fun _ => none)
    (sampleDirectory.createBlueprint " PAYROLL" ["user-2"] [] .skip)
    ⟨{ firstCreation.2.state with requests := [], failures := [] }, countedIds, []⟩
  have minds := blueprints _ _ _ _ _ _ _ _ _ _ _ _ (by decide) runs
  exact ⟨kept, _, _, _, runs, (minds.settled _ isFirst).2⟩

end Directory

end Provision
