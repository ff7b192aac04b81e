import IbanWatch.Detection.Run
import IbanWatch.Startup
import IbanWatch.Proofs.Watch.Handling
import IbanWatch.Proofs.Watch.Turns
import IbanWatch.Proofs.Watch.Alerts
import IbanWatch.Proofs.Watch.Signals
import IbanWatch.Proofs.Watch.Release
import IbanWatch.Proofs.Watch.Undisturbed
import IbanWatch.Proofs.Watch.Cancellation
import IbanWatch.Proofs.Watch.Failures
import IbanWatch.Proofs.Text.Encoding
import IbanWatch.Proofs.Text.Numerals
import IbanWatch.Proofs.Json.Grammar
import IbanWatch.Proofs.Json.Strings
import IbanWatch.Proofs.Json.Numerals
import IbanWatch.Proofs.Json.Groups
import IbanWatch.Proofs.Json.Reading
import IbanWatch.Proofs.Event.Decoding
import IbanWatch.Proofs.Event.AlertPayload
import IbanWatch.Proofs.Watch.OwnAlerts
import IbanWatch.Proofs.Watch.Balance
import IbanWatch.Proofs.Watch.Growth
import IbanWatch.Proofs.Watch.HeadStart
import IbanWatch.Proofs.Watch.Clocks
import IbanWatch.Proofs.Watch.Rounds
import IbanWatch.Proofs.Watch.Agreement
import IbanWatch.Proofs.Json.Standard
import IbanWatch.Proofs.Event.Extension
import IbanWatch.Proofs.Shutdown.Waking
import IbanWatch.Proofs.Watch.Logs
import IbanWatch.Proofs.Toml.Reserved
import IbanWatch.Proofs.Config.Fields
import IbanWatch.Proofs.Config.Loading
import IbanWatch.Proofs.EnvFile.Completion
import IbanWatch.Proofs.EnvFile.Starting
import IbanWatch.Proofs.Iban.Remainder
import IbanWatch.Proofs.Iban.Layout
import IbanWatch.Proofs.Iban.Checking
import IbanWatch.Proofs.Iban.NormalForm
import IbanWatch.Proofs.Iban.Weights
import IbanWatch.Proofs.Iban.Slips
import IbanWatch.Proofs.Iban.CheckDigits
import IbanWatch.Proofs.Iban.Chunks
import IbanWatch.Proofs.Iban.Guards
import IbanWatch.Proofs.Text.Quoting
import IbanWatch.Proofs.Watch.Processing
import IbanWatch.Proofs.Watch.Forgery
import IbanWatch.Proofs.Time.Calendar
import IbanWatch.Proofs.Time.Timestamps
import IbanWatch.Proofs.Event.AlertTimes
