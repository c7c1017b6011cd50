import AccessNotices.Main
import AccessNotices.Naming
import AccessNotices.Proofs.Caller.Acceptance
import AccessNotices.Proofs.Caller.Identifier
import AccessNotices.Proofs.CommandLine.Run
import AccessNotices.Proofs.Log.Configuration
import AccessNotices.Proofs.Lookup.Coherence
import AccessNotices.Proofs.Lookup.Disclosure
import AccessNotices.Proofs.Lookup.Message
import AccessNotices.Proofs.Lookup.Trail
import AccessNotices.Proofs.Pool.Credentials
import AccessNotices.Proofs.Pool.Defaults
import AccessNotices.Proofs.Record.Identity
import AccessNotices.Proofs.Record.Influence
import AccessNotices.Proofs.Record.Reassembly
import AccessNotices.Proofs.Role.Spelling
import AccessNotices.Proofs.Session.Discipline
import AccessNotices.Proofs.Session.Independence
import AccessNotices.Proofs.Settings.Level
import AccessNotices.Proofs.Settings.Resolution
import AccessNotices.Proofs.Statement.Overrides
import AccessNotices.Proofs.Store.Duality
