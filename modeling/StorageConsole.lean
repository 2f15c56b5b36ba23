import StorageConsole.Call.Resources
import StorageConsole.Client.Builder
import StorageConsole.Client.Command
import StorageConsole.Config.VariablesFile
import StorageConsole.Envelope.Record
import StorageConsole.Preferences.Store
import StorageConsole.Proofs.Client.Failing
import StorageConsole.Proofs.Download.Storing
import StorageConsole.Proofs.Session.Interruption
import StorageConsole.Proofs.Session.Login
import StorageConsole.Proofs.Files.Tree
import StorageConsole.Proofs.Download.Saving
import StorageConsole.Proofs.Download.LastSaved
import StorageConsole.Proofs.Download.Together
import StorageConsole.Proofs.Download.Entries
import StorageConsole.Proofs.Download.Reporting
import StorageConsole.Proofs.Json.Strings
import StorageConsole.Proofs.Json.Numbers
import StorageConsole.Proofs.Json.Ordered
import StorageConsole.Proofs.Json.Rereading
import StorageConsole.Proofs.Envelope.Rereading
import StorageConsole.Proofs.Json.Agreement
import StorageConsole.Proofs.Envelope.Uniform
import StorageConsole.Proofs.Json.Lines
import StorageConsole.Proofs.Preferences.Rereading
import StorageConsole.Proofs.Preferences.Storing
import StorageConsole.Proofs.Text.Pieces
import StorageConsole.Proofs.Text.Percent
import StorageConsole.Proofs.Text.Form
import StorageConsole.Proofs.Call.Queries
import StorageConsole.Proofs.Json.Numerals
import StorageConsole.Proofs.Json.Spelling
import StorageConsole.Proofs.Envelope.Spelling
import StorageConsole.Proofs.Url.Walking
import StorageConsole.Proofs.Url.Resolving
import StorageConsole.Proofs.Http.Beneath
import StorageConsole.Proofs.Url.Plain
import StorageConsole.Proofs.Http.Routes
import StorageConsole.Proofs.Http.Bases
import StorageConsole.Proofs.Download.Resolved
import StorageConsole.Proofs.Download.Searching
import StorageConsole.Proofs.Download.Extended
import StorageConsole.Proofs.Download.Parameters
import StorageConsole.Proofs.Client.Stacks
import StorageConsole.Proofs.Client.Logging
import StorageConsole.Proofs.Http.Headers
import StorageConsole.Proofs.Http.Precedence
import StorageConsole.Proofs.Session.Secrecy
import StorageConsole.Proofs.Config.Environment
import StorageConsole.Proofs.Config.Settings
import StorageConsole.Proofs.Client.Building
import StorageConsole.Proofs.Json.Cutting
import StorageConsole.Proofs.Files.Making
import StorageConsole.Proofs.Preferences.Cutting
import StorageConsole.Proofs.Preferences.Failing
