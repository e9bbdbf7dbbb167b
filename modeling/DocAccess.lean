import DocAccess.Web.Service
import DocAccess.Repository.Scripted
import DocAccess.Proofs.Documents
import DocAccess.Proofs.Membership
import DocAccess.Proofs.Feed
import DocAccess.Proofs.Exhaustion
import DocAccess.Proofs.Aggregator
import DocAccess.Proofs.Authorization.Verdict
import DocAccess.Proofs.Session.Trail
import DocAccess.Proofs.Authorization.Deadline
import DocAccess.Proofs.Authorization.Isolation
import DocAccess.Proofs.Authorization.Protocol
import DocAccess.Proofs.Authorization.Table
import DocAccess.Proofs.Authorization.Outcome
import DocAccess.Proofs.Session.Worlds
import DocAccess.Proofs.Session.Schedule
import DocAccess.Proofs.Session.Completion
import DocAccess.Proofs.Remote.Rows
import DocAccess.Proofs.Remote.Client
import DocAccess.Proofs.Remote.Payload
import DocAccess.Proofs.Remote.Notices
import DocAccess.Proofs.Remote.Separation
import DocAccess.Proofs.Repository.History
import DocAccess.Proofs.Authorization.Remote
import DocAccess.Proofs.Authorization.Course
import DocAccess.Proofs.Authorization.Clients
import DocAccess.Proofs.Authorization.Closing
import DocAccess.Proofs.Authorization.Log
import DocAccess.Proofs.Authorization.Disclosure
import DocAccess.Proofs.Authorization.Lateness
import DocAccess.Proofs.Authorization.Principal
import DocAccess.Proofs.Schema.Request
import DocAccess.Proofs.Encoding.Length
import DocAccess.Proofs.Json.Width
import DocAccess.Proofs.Web.Request
import DocAccess.Proofs.Web.Answers
import DocAccess.Proofs.Web.Rejections
import DocAccess.Proofs.Web.Traces
