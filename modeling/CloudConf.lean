import CloudConf.CloudAccess
import CloudConf.CloudsFile
import CloudConf.Command.Arguments
import CloudConf.Command.Publication
import CloudConf.Command.Request
import CloudConf.Command.Run
import CloudConf.Credentials
import CloudConf.Credentials.Reading
import CloudConf.Datum
import CloudConf.Disk.Basic
import CloudConf.Disk.Change
import CloudConf.Disk.Listing
import CloudConf.Disk.Path
import CloudConf.Disk.WidePath
import CloudConf.Failure
import CloudConf.Install
import CloudConf.InstallConfig
import CloudConf.Journal
import CloudConf.Lookup
import CloudConf.Main
import CloudConf.Profile
import CloudConf.Proofs.ActionRuns
import CloudConf.Proofs.Additions
import CloudConf.Proofs.AlikeTrees
import CloudConf.Proofs.BasicReading
import CloudConf.Proofs.CaFileReading
import CloudConf.Proofs.CauseChains
import CloudConf.Proofs.CloudsOption
import CloudConf.Proofs.CommandAgreement
import CloudConf.Proofs.CommandRuns
import CloudConf.Proofs.CommandWrites
import CloudConf.Proofs.ControlSequences
import CloudConf.Proofs.DocumentFaults
import CloudConf.Proofs.InstallSteps
import CloudConf.Proofs.NameLookup
import CloudConf.Proofs.NamedNetwork
import CloudConf.Proofs.Noninterference
import CloudConf.Proofs.Places
import CloudConf.Proofs.Products
import CloudConf.Proofs.ProfileSettings
import CloudConf.Proofs.ProviderFields
import CloudConf.Proofs.ProviderRuns
import CloudConf.Proofs.Publishing
import CloudConf.Proofs.Quoting
import CloudConf.Proofs.Reruns
import CloudConf.Proofs.SameCloud
import CloudConf.Proofs.ScanFaults
import CloudConf.Proofs.SecretLines
import CloudConf.Proofs.SecretMode
import CloudConf.Proofs.SecretReading
import CloudConf.Proofs.SettingsFaults
import CloudConf.Proofs.SettingsReading
import CloudConf.Proofs.StepRuns
import CloudConf.Proofs.TreeChanges
import CloudConf.Proofs.ValueTexts
import CloudConf.Proofs.WidePaths
import CloudConf.Provider
import CloudConf.Provider.Reading
import CloudConf.Settings
import CloudConf.Text.Base64
import CloudConf.Text.BasicLiteral
import CloudConf.Text.Comment
import CloudConf.Text.ControlSequence
import CloudConf.Text.Display
import CloudConf.Text.Entries
import CloudConf.Text.Hex
import CloudConf.Text.Lines
import CloudConf.Text.Literal
import CloudConf.Text.Lowercase
import CloudConf.Text.Numeral
import CloudConf.Text.Printable
import CloudConf.Text.Ranges
import CloudConf.Text.Utf8
import CloudConf.Text.Wide
import CloudConf.World
import CloudConf.Yaml.Document
import CloudConf.Yaml.Graph
import CloudConf.Yaml.Scalar
import CloudConf.Yaml.Scan
import CloudConf.Yaml.Source
import CloudConf.Yaml.Stream
import CloudConf.Yaml.Tag
import CloudConf.Yaml.Token
import CloudConf.Yaml.Tree
import CloudConf.Yaml.Value
