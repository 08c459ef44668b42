import AccessControl.Main
import AccessControl.Proofs.QueryPolicies.Coverage
import AccessControl.Proofs.Cluster.Operation
import AccessControl.Proofs.QueryPolicies.Selection
import AccessControl.Proofs.Grant
import AccessControl.Proofs.Json.Members
import AccessControl.Proofs.Resolution
import AccessControl.Proofs.Snapshot.Loaded
import AccessControl.Proofs.Snapshot.Retelling
import AccessControl.Proofs.Principal
import AccessControl.Proofs.Decision.Judgement
import AccessControl.Proofs.Decision.Provenance
import AccessControl.Proofs.PolicyToken.Cut
import AccessControl.Proofs.QueryPolicies.Injection
import AccessControl.Proofs.Cluster.Service
import AccessControl.Proofs.QueryPolicies.Visibility
import AccessControl.Proofs.Timestamp
import AccessControl.Proofs.Uuid
import AccessControl.Proofs.Json.Normal
import AccessControl.Proofs.Json.Records
import AccessControl.Proofs.Permission
import AccessControl.Proofs.Snapshot.Document
import AccessControl.Proofs.Cluster.Frame
import AccessControl.Proofs.Reload.Records
import AccessControl.Proofs.Reload.Run
import AccessControl.Proofs.Cluster.Contents
import AccessControl.Proofs.Reload.Outcome
import AccessControl.Proofs.Cluster.Command
import AccessControl.Proofs.Cluster.SameContents
import AccessControl.Proofs.Cluster.Filing
import AccessControl.Proofs.Reload.Adoption
import AccessControl.Proofs.Cluster.Failure
import AccessControl.Proofs.Cluster.Convergence
import AccessControl.Proofs.Cluster.Interleaving
import AccessControl.Proofs.Protocol
import AccessControl.Proofs.Reload.Publication
import AccessControl.Proofs.Reload.Overtaking
import AccessControl.Proofs.Memory.Changes
import AccessControl.Proofs.Cluster.Attendance
import AccessControl.Proofs.Decision.EntryGrants
import AccessControl.Proofs.Json.Shape
import AccessControl.Proofs.Grants.Document
import AccessControl.Proofs.Keyspace.Effects
import AccessControl.Proofs.Keyspace.GrantCache
import AccessControl.Proofs.Errands.Conduct
import AccessControl.Proofs.Errands.Origins
import AccessControl.Proofs.Errands.Resolutions
import AccessControl.Proofs.Cluster.Twins
import AccessControl.Proofs.Cluster.Coherence
import AccessControl.Proofs.Cluster.Transparency
import AccessControl.Proofs.Database.Like
import AccessControl.Proofs.Text.Blank
import AccessControl.Proofs.Json.Lossless
import AccessControl.Proofs.Decision.Confinement
import AccessControl.Proofs.Memory.Contents
import AccessControl.Proofs.PolicyToken.Pattern
import AccessControl.Proofs.QueryPolicies.Patterns
import AccessControl.Proofs.Errands.Ledger
import AccessControl.Proofs.Errands.Succession
import AccessControl.Proofs.Decision.Inheritance
import AccessControl.Proofs.Decision.Shadowing
import AccessControl.Proofs.Resolution.Merge
import AccessControl.Proofs.Json.Same
import AccessControl.Proofs.Grants.Merging
import AccessControl.Proofs.Resolution.Recasting
import AccessControl.Proofs.Attributes
import AccessControl.Proofs.Grants.Restrictions
import AccessControl.Proofs.Text.Replace
import AccessControl.Proofs.Subpath.Resolve
import AccessControl.Proofs.PermissionKey
import AccessControl.Proofs.Decision.OwnSubtree
import AccessControl.Proofs.PolicyToken.Scope
import AccessControl.Proofs.QueryPolicies.Formats
import AccessControl.Proofs.Subpath.Slashes
import AccessControl.Proofs.History
import AccessControl.Proofs.Keyspace.Clearing
import AccessControl.Proofs.Memory.Lookups
import AccessControl.Proofs.Subpath.Overlap
import AccessControl.Proofs.QueryPolicies.Spelling
import AccessControl.Proofs.Json.Escape
import AccessControl.Proofs.Json.Numeral
import AccessControl.Proofs.Json.Rereading
import AccessControl.Proofs.Json.KeptText
import AccessControl.Proofs.Json.Retelling
import AccessControl.Proofs.Json.Shaped
import AccessControl.Proofs.Keyspace.SnapshotShelf
import AccessControl.Proofs.Keyspace.Sharing
import AccessControl.Proofs.Attributes.Leaves
import AccessControl.Proofs.Database.Matching
import AccessControl.Proofs.Subpath.Ancestry
