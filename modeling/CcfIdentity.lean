import CcfIdentity.Base.Utf16
import CcfIdentity.Base.Runs
import CcfIdentity.Base.DenyOverrides
import CcfIdentity.Base.Footprint
import CcfIdentity.Base.Interleaving
import CcfIdentity.Base.Noninterference
import CcfIdentity.Base.Refinement
import CcfIdentity.Base.Programs
import CcfIdentity.Base.Spans
import CcfIdentity.Json.Value
import CcfIdentity.Json.Lexer
import CcfIdentity.Json.Parser
import CcfIdentity.Json.Integers
import CcfIdentity.Json.Stored
import CcfIdentity.Store.Tables
import CcfIdentity.Store.Membership
import CcfIdentity.Rbac.Roles
import CcfIdentity.Rbac.Actions
import CcfIdentity.Rbac.ActionLists
import CcfIdentity.Rbac.Additions
import CcfIdentity.Rbac.Assignments
import CcfIdentity.Rbac.Grants
import CcfIdentity.Rbac.GroupLookup
import CcfIdentity.Auth.CheckAccess
import CcfIdentity.Auth.Scan
import CcfIdentity.Auth.Outcome
import CcfIdentity.Auth.Decision
import CcfIdentity.Auth.Policy
import CcfIdentity.Auth.Order
import CcfIdentity.Network.Steps
import CcfIdentity.Network.Grants
import CcfIdentity.Network.Answers
import CcfIdentity.Network.Locality
import CcfIdentity.Network.Provenance
import CcfIdentity.Network.Views
import CcfIdentity.Network.Idempotence
import CcfIdentity.Network.Refusals
import CcfIdentity.Network.PermissionLists
import CcfIdentity.Network.ActionEffects
import CcfIdentity.Network.GrantEffects
import CcfIdentity.Network.Footprints
import CcfIdentity.Network.Commutation
import CcfIdentity.Network.Interleaving
import CcfIdentity.Network.History
import CcfIdentity.Network.Scopes
import CcfIdentity.Network.Declared
import CcfIdentity.Network.Refinement
import CcfIdentity.Constitution.Host
import CcfIdentity.Constitution.Checks
import CcfIdentity.Constitution.Url
import CcfIdentity.Constitution.Tables
import CcfIdentity.Constitution.Members
import CcfIdentity.Constitution.Identities
import CcfIdentity.Constitution.Service
import CcfIdentity.Constitution.Nodes
import CcfIdentity.Constitution.Apps
import CcfIdentity.Constitution.Issuers
import CcfIdentity.Constitution.Proposals
import CcfIdentity.Constitution.Enact
import CcfIdentity.Constitution.Steps
import CcfIdentity.Constitution.Configuration
import CcfIdentity.Constitution.Recovery
import CcfIdentity.Constitution.Lifecycle
import CcfIdentity.Constitution.Certificates
import CcfIdentity.Constitution.Endorsements
import CcfIdentity.Constitution.Deployments
import CcfIdentity.Constitution.Refreshes
import CcfIdentity.Constitution.Recomposition
import CcfIdentity.Constitution.Membership
import CcfIdentity.Constitution.Users
import CcfIdentity.Constitution.Supersession
import CcfIdentity.Logapp.Requests
import CcfIdentity.Logapp.Endpoints
import CcfIdentity.Logapp.Queries
import CcfIdentity.Logapp.System
import CcfIdentity.Logapp.Dispatch
import CcfIdentity.Logapp.Access
