import GptQueue.Claims.Conservation
import GptQueue.Claims.Lifetime
import GptQueue.Claims.Migration
import GptQueue.Claims.Purge
import GptQueue.Claims.RenameBudget
import GptQueue.Claims.Store
import GptQueue.Mailbox.Replies
import GptQueue.Sessions.RegistryRollback
import GptQueue.Wake.Duplicates
import GptQueue.Mailbox.Receive
import GptQueue.Sessions.Presence
import GptQueue.Activation.SubmitOnce
import GptQueue.Custody.Exclusion
import GptQueue.Claims.RecoveryRuns
import GptQueue.Diagnostics.Inheritance
import GptQueue.Sessions.Addressable
import GptQueue.Mailbox.Recipients
import GptQueue.Sessions.Binding
import GptQueue.Sessions.Continuity
import GptQueue.Codex.Frames
import GptQueue.Codex.History
import GptQueue.Runtime.SubmitOnce
import GptQueue.Launch.Confinement
import GptQueue.Launch.InlineCode
import GptQueue.Activation.Failures
import GptQueue.Activation.Attempts
import GptQueue.OpenCode.OneBackend
import GptQueue.Wrapper.Exclusive
import GptQueue.Custody.Admission
import GptQueue.Diagnostics.Search
import GptQueue.Wake.Workload
import GptQueue.Launch.Ownership
import GptQueue.Claims.Order
import GptQueue.Transport.HttpSessions
import GptQueue.Runtime.Controller
import GptQueue.Claims.Worker
import GptQueue.Wrapper.Cleanup
import GptQueue.Wrapper.Arguments
import GptQueue.Runtime.OpenCode
import GptQueue.Diagnostics.Delivery
import GptQueue.Pty.Injection
import GptQueue.Runtime.PiExtension
import GptQueue.Transport.Bearer
