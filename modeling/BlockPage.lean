import BlockPage.Intake.Definition
import BlockPage.Intake.Record
import BlockPage.Intake.Settings
import BlockPage.Intake.Writing
import BlockPage.Journal
import BlockPage.Library.Arguments
import BlockPage.Proofs.Traversal
import BlockPage.Proofs.Layout.Scanning
import BlockPage.Proofs.Layout.ReadingExact
import BlockPage.Proofs.Number.ReadBack
import BlockPage.Proofs.Layout.WrittenNumbers
import BlockPage.Proofs.Layout.WrittenLayouts
import BlockPage.Proofs.Layout.RoundTrip
import BlockPage.Proofs.Page.Contributions
import BlockPage.Proofs.Page.Resolution
import BlockPage.Proofs.Page.FirstOccurrences
import BlockPage.Proofs.Layout.Normalization
import BlockPage.Proofs.Layout.Fillers
import BlockPage.Proofs.Layout.FirstFault
import BlockPage.Proofs.Layout.Progress
import BlockPage.Proofs.Layout.Totality
import BlockPage.Proofs.Layout.Wrapping
import BlockPage.Proofs.Page.TwoForms
import BlockPage.Proofs.Page.Escaping
import BlockPage.Proofs.Page.Rendering
import BlockPage.Proofs.Canvas.Importing
import BlockPage.Proofs.Page.CallerFaults
import BlockPage.Proofs.Page.InlinedStyle
import BlockPage.Proofs.Page.SameLayouts
import BlockPage.Proofs.Layout.FaultyGrammar
import BlockPage.Proofs.Layout.FaultyScanning
import BlockPage.Proofs.Layout.Places
import BlockPage.Proofs.Layout.FirstWrongToken
import BlockPage.Proofs.Layout.Joining
import BlockPage.Proofs.Layout.WrittenLines
import BlockPage.Proofs.Canvas.Handles
import BlockPage.Proofs.Registry.Histories
import BlockPage.Proofs.Page.Landmarks
import BlockPage.Proofs.Registry.Partition
import BlockPage.Proofs.Library.Attributes
import BlockPage.Proofs.Library.References
import BlockPage.Proofs.Page.Identifiers
import BlockPage.Proofs.Text.Parts
import BlockPage.Proofs.Library.Records
import BlockPage.Proofs.Library.Listings
import BlockPage.Proofs.Layout.Identifiers
import BlockPage.Proofs.Theme.Channels
