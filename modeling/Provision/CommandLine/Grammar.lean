import Provision.Command
import Provision.CommandLine.Level

/-!
# The command line

`parse` reads the arguments of the program into a command and the options that
all commands share.  `groups` lists the commands by group, each with its options
and with the command that its values make.
-/

namespace Provision

/-- A command with the options that all commands share. -/
structure Invocation where
  asJson : Bool
  rehearse : Bool
  tenantId : Option String
  command : Command
  /-- The options as they were given to the command. -/
  given : CommandLine.Level

namespace CommandLine

/-- The options that may stand on every level. -/
def sharedParameters : List Parameter :=
  [.flag "json", .flag "dry-run", .optional "tenant-id"]

/-- A command with its name and options; its values are complete when they are turned into it. -/
structure Action where
  name : String
  parameters : List Parameter
  command : Level → Command

/-- The value of an option that has to be given. -/
def Level.value (level : Level) (name : String) : String := ((level.valuesOf name).head?).getD ""

/-- The value of an option that may be left out. -/
def Level.value? (level : Level) (name : String) : Option String := (level.valuesOf name).head?

/-- The options of both kinds of create. -/
def createParameters : List Parameter :=
  [.needed "name", .several "sponsor" true,
    .chosen "on-duplicate" ["fail", "skip", "create-anyway"]]

/-- What the options of a create say. -/
def createArguments (level : Level) : CreateArguments :=
  { name := level.value "name"
    sponsors := level.valuesOf "sponsor"
    onDuplicate := ((level.value? "on-duplicate").bind Namesake.Policy.ofName?).getD .fail }

/-- What the options of an upsert of a scope say. -/
def scopeSpec (level : Level) : ScopeSpec :=
  let both := (level.value? "user-consent-name").isSome
    && (level.value? "user-consent-description").isSome
  { value := level.value "value"
    consenter := if level.value? "type" = some "admin" then .admin else .user
    enabled := !level.has "disabled"
    adminConsentDisplayName := level.value? "admin-consent-name"
    adminConsentDescription := level.value? "admin-consent-description"
    userConsentDisplayName := if both then level.value? "user-consent-name" else none
    userConsentDescription := if both then level.value? "user-consent-description" else none }

/-- What the options of an upsert of a credential say. -/
def credentialSpec (level : Level) : CredentialSpec :=
  let audiences := level.valuesOf "audience"
  { name := level.value "name"
    issuer := level.value "issuer"
    subject := level.value "subject"
    audiences := if audiences.isEmpty then [exchangeAudience] else audiences
    description := level.value? "description" }

/-- The commands on blueprints. -/
def blueprintActions : List Action :=
  [⟨"create", createParameters ++ [.several "owner" false], fun level =>
      .directory (.createBlueprint (createArguments level) (level.valuesOf "owner"))⟩,
    ⟨"list", [.free "name"], fun level => .directory (.listBlueprints (level.value? "name"))⟩,
    ⟨"delete", [.needed "id"], fun level => .directory (.deleteBlueprint (level.value "id"))⟩]

/-- The commands on agent identities. -/
def identityActions : List Action :=
  [⟨"create", .needed "blueprint-app-id" :: createParameters, fun level =>
      .directory (.createIdentity (level.value "blueprint-app-id") (createArguments level))⟩,
    ⟨"list", [.free "blueprint-app-id"], fun level =>
      .directory (.listIdentities (level.value? "blueprint-app-id"))⟩,
    ⟨"delete", [.needed "id"], fun level => .directory (.deleteIdentity (level.value "id"))⟩]

/-- The commands on permission scopes. -/
def scopeActions : List Action :=
  [⟨"upsert",
      [.needed "app", .needed "value", .needed "admin-consent-name",
        .needed "admin-consent-description",
        .together "user-consent-name" "user-consent-description",
        .together "user-consent-description" "user-consent-name",
        .chosen "type" ["admin", "user"], .flag "disabled"],
      fun level => .directory (.upsertScope (level.value "app") (scopeSpec level))⟩,
    ⟨"list", [.needed "app"], fun level => .directory (.listScopes (level.value "app"))⟩,
    ⟨"remove", [.needed "app", .needed "value"], fun level =>
      .directory (.removeScope (level.value "app") (level.value "value"))⟩]

/-- The commands on identifier URIs. -/
def uriActions : List Action :=
  [⟨"add", [.needed "app", .optional "uri"], fun level =>
      .directory (.addUri (level.value "app") (level.value? "uri"))⟩,
    ⟨"list", [.needed "app"], fun level => .directory (.listUris (level.value "app"))⟩,
    ⟨"remove", [.needed "app", .needed "uri"], fun level =>
      .directory (.removeUri (level.value "app") (level.value "uri"))⟩]

/-- The commands on federated credentials. -/
def credentialActions : List Action :=
  [⟨"upsert",
      [.needed "app", .needed "name", .needed "issuer", .needed "subject",
        .several "audience" false, .free "description"],
      fun level => .directory (.upsertCredential (level.value "app") (credentialSpec level))⟩,
    ⟨"list", [.needed "app", .free "subject"], fun level =>
      .directory (.listCredentials (level.value "app") (level.value? "subject"))⟩,
    ⟨"remove", [.needed "app", .needed "name"], fun level =>
      .directory (.removeCredential (level.value "app") (level.value "name"))⟩]

/-- The commands on managed identities. -/
def managedIdentityActions : List Action :=
  [⟨"create", [.needed "name", .needed "location"], fun level =>
      .resources (.createIdentity (level.value "name") (level.value "location"))⟩,
    ⟨"list", [], fun _ => .resources .listIdentities⟩,
    ⟨"delete", [.needed "name"], fun level =>
      .resources (.deleteIdentity (level.value "name"))⟩]

/-- The commands on role assignments. -/
def roleActions : List Action :=
  [⟨"assign",
      [.needed "storage-account", .needed "principal-id", ⟨"role", .single, .role, true, none⟩],
      fun level =>
        .resources (.assignRole (level.value "storage-account") (level.value "principal-id")
          (((level.value? "role").bind fun name =>
            StorageRole.all.find? fun role => role.slug = name).getD .blobDataReader))⟩,
    ⟨"list", [.needed "storage-account", .free "principal-id"], fun level =>
      .resources (.listAssignments (level.value "storage-account") (level.value? "principal-id"))⟩,
    ⟨"delete", [.needed "id"], fun level => .resources (.deleteAssignment (level.value "id"))⟩]

/-- The groups of commands. -/
def groups : List (String × List Action) :=
  [("blueprint", blueprintActions), ("identity", identityActions), ("scope", scopeActions),
    ("uri", uriActions), ("credential", credentialActions),
    ("managed-identity", managedIdentityActions), ("role", roleActions)]

/-- What may stand on the level of the program. -/
def programScheme : Scheme := ⟨sharedParameters, groups.map Prod.fst, true⟩

/-- What may stand on the level of a group. -/
def groupScheme (actions : List Action) : Scheme :=
  ⟨sharedParameters, actions.map Action.name, false⟩

/-- What may stand on the level of a command. -/
def actionScheme (action : Action) : Scheme := ⟨sharedParameters ++ action.parameters, [], false⟩

/-- What becomes of a call for help on the names of levels, of which `below` are known at each
depth. -/
def helpOn (below : List String → Option (List String)) (path : List String) :
    List String → UsageError
  | [] => .help
  | name :: rest =>
    match below path with
    | some names =>
      if names.contains name then helpOn below (path ++ [name]) rest else .unknownSubcommand
    | none => .unknownSubcommand

/-- The names of the levels below the one that a path of names leads to. -/
def namesBelow : List String → Option (List String)
  | [] => some ("help" :: groups.map Prod.fst)
  | [group] => (Members.find? group groups).map fun actions => "help" :: actions.map Action.name
  | _ => none

/-- The tenant that was given, on the innermost level that has one. -/
def tenantOf (levels : List Level) (environmentTenant : Option String) : Option String :=
  (levels.findSome? fun level => level.value? "tenant-id")
    <|> environmentTenant.bind Text.nonBlank?

/-- Reads the arguments of the program; the environment may name a tenant. -/
def parse (environmentTenant : Option String) (arguments : List String) :
    Except UsageError Invocation := do
  let (program, below) ← Level.scan programScheme Level.empty false arguments
  match below with
  | none =>
    let _ ← program.finish programScheme environmentTenant false
    throw .missingSubcommand
  | some ("help", rest) => throw (helpOn namesBelow [] rest)
  | some (groupName, rest) =>
    let actions := (Members.find? groupName groups).getD []
    let (group, below) ← Level.scan (groupScheme actions) Level.empty false rest
    match below with
    | none =>
      let _ ← group.finish (groupScheme actions) environmentTenant false
      throw .missingSubcommand
    | some ("help", rest) => throw (helpOn namesBelow [groupName] rest)
    | some (actionName, rest) =>
      let some action := actions.find? fun action => action.name = actionName
        | throw .unknownSubcommand
      let (level, _) ← Level.scan (actionScheme action) Level.empty false rest
      let level ← level.finish (actionScheme action) environmentTenant false
      let group ← group.finish (groupScheme actions) environmentTenant true
      let program ← program.finish programScheme environmentTenant true
      let levels := [level, group, program]
      return {
        asJson := levels.any fun level => level.has "json"
        rehearse := levels.any fun level => level.has "dry-run"
        tenantId := tenantOf levels environmentTenant
        command := action.command level
        given := level }

end CommandLine

end Provision
