import NotificationTap.Main
import NotificationTap.Session
import NotificationTap.Proofs.Json.Scalar
import NotificationTap.Proofs.Json.Canonical
import NotificationTap.Proofs.Json.ReadBack
import NotificationTap.Proofs.Json.Record
import NotificationTap.Proofs.Transport
import NotificationTap.Proofs.CarriedMapping
import NotificationTap.Proofs.UnrelatedContent
import NotificationTap.Proofs.HandlerRuns
import NotificationTap.Proofs.StoreRuns
import NotificationTap.Proofs.Disk.Ancestors
import NotificationTap.Proofs.Disk.Growth
import NotificationTap.Proofs.SaveAndLoad
import NotificationTap.Proofs.Except
import NotificationTap.Proofs.Loading
import NotificationTap.Proofs.CommandLine.Stages
import NotificationTap.Proofs.CommandLine.Printing
import NotificationTap.Proofs.CommandLine.PayloadSource
import NotificationTap.Proofs.CommandLine.Footprint
import NotificationTap.Proofs.CommandLine.Register
import NotificationTap.Proofs.CommandLine.BrokenSettings
import NotificationTap.Proofs.CommandLine.Decision
import NotificationTap.Proofs.CommandLine.Scanning
import NotificationTap.Proofs.CommandLine.Agreement
import NotificationTap.Proofs.CommandLine.ActionLog
import NotificationTap.Proofs.LaunchUrl.Intent
import NotificationTap.Proofs.LaunchUrl.Scheme
import NotificationTap.Proofs.Json.Reading
import NotificationTap.Proofs.LaunchUrl.Origin
import NotificationTap.Proofs.Json.Continuation
import NotificationTap.Proofs.CommandLine.Truncation
import NotificationTap.Proofs.Json.WholeNumbers
import NotificationTap.Proofs.Json.Returned
import NotificationTap.Proofs.CanonicalText
import NotificationTap.Proofs.Json.Skipping
import NotificationTap.Proofs.Json.RecordForms
import NotificationTap.Proofs.WrittenForms
import NotificationTap.Proofs.Toml.Plain
import NotificationTap.Proofs.SettingsLayout
import NotificationTap.Proofs.CommandLine.NamedSettings
import NotificationTap.Proofs.CommandLine.SettingsChoice
import NotificationTap.Proofs.CommandLine.NamedPayload
import NotificationTap.Proofs.CommandLine.PayloadChoice
