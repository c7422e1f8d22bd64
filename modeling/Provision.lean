import Provision.Item.Entry
import Provision.Json.Pointer
import Provision.Main
import Provision.Replica.Basic
import Provision.Proofs.Lossless
import Provision.Proofs.ItemSets
import Provision.Proofs.Runs
import Provision.Proofs.Postconditions
import Provision.Proofs.Effects
import Provision.Proofs.FailedRuns
import Provision.Proofs.Answers
import Provision.Proofs.Planning
import Provision.Proofs.ItemSetRuns
import Provision.Proofs.TwoPhaseRemoval
import Provision.Proofs.Contracts
import Provision.Proofs.CredentialUpsert
import Provision.Proofs.Sessions
import Provision.Proofs.Interleaving
import Provision.Proofs.OperationFailures
import Provision.Proofs.Leftovers
import Provision.Proofs.StrandedScopes
import Provision.Proofs.VerbatimRemoval
import Provision.Proofs.ResumedRemoval
import Provision.Proofs.CarriedScopes
import Provision.Proofs.RehearsedOperations
import Provision.Proofs.CredentialConvergence
import Provision.Proofs.PlannedUpserts
import Provision.Proofs.PlannedRemovals
import Provision.Proofs.RepeatedUpserts
import Provision.Proofs.BlueprintPrincipals
import Provision.Proofs.PageChains
import Provision.Proofs.CautiousCreations
import Provision.Proofs.ManagedIdentities
import Provision.Proofs.RoleAssignments
import Provision.Proofs.LinkedPages
import Provision.Proofs.SparedMembers
import Provision.Proofs.Demands
import Provision.Proofs.KnownTokens
import Provision.Proofs.RoundTrips
import Provision.Proofs.Secrets
import Provision.Proofs.AssignmentDeletions
import Provision.Proofs.ReportedStates
import Provision.Proofs.VerbEffects
import Provision.Proofs.UpsertOrder
import Provision.Proofs.UndoneUpserts
import Provision.Proofs.SufficientSettings
import Provision.Proofs.QueryRoundTrips
import Provision.Proofs.ArmedFailures
import Provision.Proofs.DirectoryDeletions
import Provision.Proofs.CaselessNames
import Provision.Proofs.RepeatedKeys
import Provision.Proofs.PreviewBases
import Provision.Proofs.ReportLines
import Provision.Proofs.CreatedDocuments
import Provision.Proofs.PathSpellings
