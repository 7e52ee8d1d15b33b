import TaskEndpoints.Log.Output
import TaskEndpoints.Main
import TaskEndpoints.Startup
import TaskEndpoints.Proofs.Caller.Basic
import TaskEndpoints.Proofs.Caller.Places
import TaskEndpoints.Proofs.Caller.Bystander
import TaskEndpoints.Proofs.Caller.Reordering
import TaskEndpoints.Proofs.Caller.Ties
import TaskEndpoints.Proofs.Caller.Identifiers
import TaskEndpoints.Proofs.Caller.UnknownAddress
import TaskEndpoints.Proofs.Caller.EqualSnapshots
import TaskEndpoints.Proofs.LocalTask
import TaskEndpoints.Proofs.Assoc
import TaskEndpoints.Proofs.Traversal
import TaskEndpoints.Proofs.Journal
import TaskEndpoints.Proofs.Text.Split
import TaskEndpoints.Proofs.Text.Utf8
import TaskEndpoints.Proofs.Http.Paths
import TaskEndpoints.Proofs.Http.Target
import TaskEndpoints.Proofs.Json.Writing
import TaskEndpoints.Proofs.Calendar.Years
import TaskEndpoints.Proofs.Calendar.Counting
import TaskEndpoints.Proofs.Calendar.Texts
import TaskEndpoints.Proofs.Container.Entries
import TaskEndpoints.Proofs.Container.Omissions
import TaskEndpoints.Proofs.Container.Equality
import TaskEndpoints.Proofs.Container.KeyOrder
import TaskEndpoints.Proofs.Metadata
import TaskEndpoints.Proofs.Metadata.KeyOrder
import TaskEndpoints.Proofs.Engine.Queries
import TaskEndpoints.Proofs.Settings.Checks
import TaskEndpoints.Proofs.Settings.Published
import TaskEndpoints.Proofs.Settings.Runs
import TaskEndpoints.Proofs.Settings.Loading
import TaskEndpoints.Proofs.Settings.MetadataFiles
import TaskEndpoints.Proofs.Service.Description
import TaskEndpoints.Proofs.Service.Requests
import TaskEndpoints.Proofs.Service.Agreement
import TaskEndpoints.Proofs.Service.Return
import TaskEndpoints.Proofs.Service.Spellings
import TaskEndpoints.Proofs.Engine.Gathering
import TaskEndpoints.Proofs.Service.Answers
import TaskEndpoints.Proofs.Startup.Exit
import TaskEndpoints.Proofs.Json.Numbers
import TaskEndpoints.Proofs.Json.Documents
import TaskEndpoints.Proofs.Service.Documents
import TaskEndpoints.Proofs.Engine.Failures
import TaskEndpoints.Proofs.Settings.Composition
import TaskEndpoints.Proofs.Text.Encodings
import TaskEndpoints.Proofs.Json.Reading
import TaskEndpoints.Proofs.Json.Octets
import TaskEndpoints.Proofs.Json.Meaning
import TaskEndpoints.Proofs.Json.Relay
import TaskEndpoints.Proofs.Engine.Samples
import TaskEndpoints.Proofs.Service.Relay
import TaskEndpoints.Proofs.Service.Omissions
import TaskEndpoints.Proofs.Text.Runs
import TaskEndpoints.Proofs.Duration
import TaskEndpoints.Proofs.Metadata.Times
import TaskEndpoints.Proofs.Tags
import TaskEndpoints.Proofs.Settings.Tags
import TaskEndpoints.Proofs.Number.Rounding
import TaskEndpoints.Proofs.Number.Doubles
import TaskEndpoints.Proofs.Calendar.Spans
import TaskEndpoints.Proofs.Calendar.Shifts
import TaskEndpoints.Proofs.Credentials.Expiration
import TaskEndpoints.Proofs.Container.Contents
import TaskEndpoints.Proofs.Metadata.Tables
import TaskEndpoints.Proofs.Metadata.Projection
import TaskEndpoints.Proofs.Credentials.RoleNames
import TaskEndpoints.Proofs.Credentials.Roles
import TaskEndpoints.Proofs.Service.Roles
