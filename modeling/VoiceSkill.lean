import VoiceSkill.Artifact
import VoiceSkill.Assembly
import VoiceSkill.Build
import VoiceSkill.Command.Arguments
import VoiceSkill.Command.Run
import VoiceSkill.Command.Settings
import VoiceSkill.Config
import VoiceSkill.Coverage
import VoiceSkill.Decimal
import VoiceSkill.Decimal.Binary
import VoiceSkill.Decimal.Shortest
import VoiceSkill.Definition
import VoiceSkill.Dict
import VoiceSkill.Disk
import VoiceSkill.Document
import VoiceSkill.Document.Printer
import VoiceSkill.Event
import VoiceSkill.Intent
import VoiceSkill.Json
import VoiceSkill.Json.Decoder
import VoiceSkill.Json.Error
import VoiceSkill.Json.Lexeme
import VoiceSkill.Json.Numeral
import VoiceSkill.Json.Reader
import VoiceSkill.Kebab
import VoiceSkill.KeepFirst
import VoiceSkill.Layout
import VoiceSkill.Locale
import VoiceSkill.Logged
import VoiceSkill.Main
import VoiceSkill.Path
import VoiceSkill.Proofs.Artifact.History
import VoiceSkill.Proofs.Assembly.Agreement
import VoiceSkill.Proofs.Assembly.Configurations
import VoiceSkill.Proofs.Assembly.Containment
import VoiceSkill.Proofs.Assembly.Content
import VoiceSkill.Proofs.Assembly.Environment
import VoiceSkill.Proofs.Assembly.Files
import VoiceSkill.Proofs.Assembly.Freshness
import VoiceSkill.Proofs.Assembly.Identifiers
import VoiceSkill.Proofs.Assembly.Invocations
import VoiceSkill.Proofs.Assembly.Nesting
import VoiceSkill.Proofs.Assembly.Operations
import VoiceSkill.Proofs.Assembly.Placing
import VoiceSkill.Proofs.Assembly.Plan
import VoiceSkill.Proofs.Assembly.References
import VoiceSkill.Proofs.Assembly.Resource
import VoiceSkill.Proofs.Assembly.Sound
import VoiceSkill.Proofs.Assembly.Synonyms
import VoiceSkill.Proofs.Assembly.Unresolved
import VoiceSkill.Proofs.Assembly.Whole
import VoiceSkill.Proofs.Build
import VoiceSkill.Proofs.BuildOrder
import VoiceSkill.Proofs.Command.Settings
import VoiceSkill.Proofs.Config
import VoiceSkill.Proofs.Coverage
import VoiceSkill.Proofs.Decimal
import VoiceSkill.Proofs.Definition.RoundTrip
import VoiceSkill.Proofs.Definition.Samples
import VoiceSkill.Proofs.Definition.Writing
import VoiceSkill.Proofs.Dict
import VoiceSkill.Proofs.Disk
import VoiceSkill.Proofs.Document
import VoiceSkill.Proofs.Document.Identifiers
import VoiceSkill.Proofs.Document.Structure
import VoiceSkill.Proofs.Json.Decoding
import VoiceSkill.Proofs.Json.Document
import VoiceSkill.Proofs.Json.Number
import VoiceSkill.Proofs.Json.Reader
import VoiceSkill.Proofs.Json.Records
import VoiceSkill.Proofs.Json.Text
import VoiceSkill.Proofs.Json.Values
import VoiceSkill.Proofs.Json.Written
import VoiceSkill.Proofs.Kebab
import VoiceSkill.Proofs.Kebab.Hyphens
import VoiceSkill.Proofs.Kebab.Plain
import VoiceSkill.Proofs.Kebab.Twice
import VoiceSkill.Proofs.Kebab.Words
import VoiceSkill.Proofs.KeepFirst
import VoiceSkill.Proofs.Layout
import VoiceSkill.Proofs.Layout.Environment
import VoiceSkill.Proofs.Outcome
import VoiceSkill.Proofs.Path
import VoiceSkill.Proofs.Path.Order
import VoiceSkill.Proofs.Sample
import VoiceSkill.Proofs.Schema
import VoiceSkill.Proofs.Selection
import VoiceSkill.Proofs.SlotChoice
import VoiceSkill.Proofs.SlotValues.Collection
import VoiceSkill.Proofs.SlotValues.Forms
import VoiceSkill.Proofs.Template.Placeholder
import VoiceSkill.Proofs.Template.Scan
import VoiceSkill.Proofs.Template.Search
import VoiceSkill.Proofs.Template.Segmentation
import VoiceSkill.Proofs.Template.Span
import VoiceSkill.Proofs.Template.Written
import VoiceSkill.Proofs.Unicode.LetterCase
import VoiceSkill.Proofs.Unicode.Run
import VoiceSkill.Proofs.Utterance.Compile
import VoiceSkill.Proofs.Utterance.Influence
import VoiceSkill.Proofs.Utterance.Locality
import VoiceSkill.Proofs.Utterance.Reading
import VoiceSkill.Proofs.Utterance.Samples
import VoiceSkill.Proofs.Uuid
import VoiceSkill.Proofs.Writer.Directory
import VoiceSkill.Proofs.Writer.File
import VoiceSkill.Proofs.Writer.History
import VoiceSkill.Proofs.Writer.Memory
import VoiceSkill.Proofs.Writer.Readable
import VoiceSkill.Proofs.Writer.Run
import VoiceSkill.Schema
import VoiceSkill.Selection
import VoiceSkill.SlotValues
import VoiceSkill.Template.Pattern
import VoiceSkill.Template.Segment
import VoiceSkill.Text
import VoiceSkill.Toml.Lexeme
import VoiceSkill.Toml.Reader
import VoiceSkill.Toml.Table
import VoiceSkill.Unicode.Alphanumeric
import VoiceSkill.Unicode.Cased
import VoiceSkill.Unicode.Class
import VoiceSkill.Unicode.Unprintable
import VoiceSkill.Utterance
import VoiceSkill.Utterance.Compile
import VoiceSkill.Uuid
import VoiceSkill.Writer
import VoiceSkill.Writer.Memory
