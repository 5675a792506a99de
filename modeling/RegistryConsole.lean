import RegistryConsole.Artifact.Json
import RegistryConsole.Console.Basic
import RegistryConsole.Instant.Elapsed
import RegistryConsole.Json.Reader
import RegistryConsole.Main
import RegistryConsole.Proofs.Instant.Rfc3339
import RegistryConsole.Proofs.Console.Redirects
import RegistryConsole.Proofs.Session.Meaning
import RegistryConsole.Proofs.Session.Staleness
import RegistryConsole.Proofs.Session.Provenance
import RegistryConsole.Proofs.Console.Discretion
import RegistryConsole.Proofs.Console.Traffic
import RegistryConsole.Proofs.Console.Isolation
import RegistryConsole.Proofs.Console.LogOut
import RegistryConsole.Proofs.Registry.Echo
import RegistryConsole.Proofs.Version.Preorder
import RegistryConsole.Proofs.Registry.Identifiers
import RegistryConsole.Proofs.Console.ArtifactLinks
import RegistryConsole.Proofs.Console.Anonymity
import RegistryConsole.Proofs.Console.Fetching
import RegistryConsole.Proofs.Console.Controls
import RegistryConsole.Proofs.Registry.VersionLists
import RegistryConsole.Proofs.Version.Spelling
import RegistryConsole.Proofs.Registry.SessionCalls
import RegistryConsole.Proofs.Runtime.AllowList
import RegistryConsole.Proofs.Trace.Context
import RegistryConsole.Proofs.Guard.FirstStop
import RegistryConsole.Proofs.Session.Interruption
import RegistryConsole.Proofs.Instant.Elapsed
import RegistryConsole.Proofs.Page.Skeleton
import RegistryConsole.Proofs.Console.Tally
