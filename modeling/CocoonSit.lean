import CocoonSit.Jobs.Exclusion
import CocoonSit.Wakeup.Coupling
import CocoonSit.Dispatch.RetryChain
import CocoonSit.Dispatch.Coverage
import CocoonSit.Jobs.CompactionRuns
import CocoonSit.Access.Privileges
import CocoonSit.Removal.Rollback
import CocoonSit.Security.UserScope
import CocoonSit.Access.Rotation
import CocoonSit.Access.InviteQuota
import CocoonSit.Access.InviteSeats
import CocoonSit.Tags.DeletionRuns
import CocoonSit.Removal.Administration
import CocoonSit.Catalog.Visibility
import CocoonSit.Plugins.UpdateRollback
import CocoonSit.Bridge.Confinement
import CocoonSit.Plugins.ImSdkRouting
import CocoonSit.Bridge.Delivered
import CocoonSit.Dispatch.Edits
import CocoonSit.Memory.Vectors
import CocoonSit.Dispatch.Claiming
import CocoonSit.Memory.Accesses
import CocoonSit.Messages.History
import CocoonSit.Dispatch.TimeoutRetries
import CocoonSit.Runtime.Participants
import CocoonSit.Plugins.InboundIds
import CocoonSit.Memory.Durability
import CocoonSit.Prompts.Redaction
import CocoonSit.Prompts.Revisions
import CocoonSit.Runtime.PromptPayloads
import CocoonSit.Plugins.ShortLivedScopes
import CocoonSit.Runtime.ExternalContext
import CocoonSit.Runtime.Replays
import CocoonSit.Client.StatePatches
import CocoonSit.Client.Envelope
import CocoonSit.Client.LegacyIds
import CocoonSit.Prompts.Assembly
import CocoonSit.Bridge.CommandText
import CocoonSit.Memory.OpTags
import CocoonSit.Plugins.SchemaSemantics
import CocoonSit.Runtime.RequestModes
import CocoonSit.Workspace.Tree
import CocoonSit.Jobs.Replacement
import CocoonSit.Memory.Maintenance
import CocoonSit.Observability.Insights
import CocoonSit.Plugins.Dependencies
import CocoonSit.Bridge.RouteRuns
import CocoonSit.Plugins.TargetBindings
import CocoonSit.Workspace.TagLabels
