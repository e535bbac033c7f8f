import ProgramConnector.Catalog.Check
import ProgramConnector.Catalog.ConfigurationFile
import ProgramConnector.Catalog.Load
import ProgramConnector.Checksum.Basic
import ProgramConnector.Checksum.Sha256
import ProgramConnector.Command.Arguments
import ProgramConnector.Command.Help
import ProgramConnector.Command.Run
import ProgramConnector.Connector
import ProgramConnector.Document.Reader
import ProgramConnector.Failure
import ProgramConnector.Files.FileSystem
import ProgramConnector.Files.Node
import ProgramConnector.Files.Path
import ProgramConnector.Json.Basic
import ProgramConnector.Json.Members
import ProgramConnector.Json.Pointer
import ProgramConnector.Json.Printer
import ProgramConnector.Json.Reader
import ProgramConnector.Json.Skip
import ProgramConnector.Main
import ProgramConnector.Naming.Identifiers
import ProgramConnector.Naming.TypeName
import ProgramConnector.Naming.Words
import ProgramConnector.Numeric.Binary64
import ProgramConnector.Numeric.Extended
import ProgramConnector.Numeric.Shortest
import ProgramConnector.Program.Artifact
import ProgramConnector.Program.Basic
import ProgramConnector.Program.Configuration
import ProgramConnector.Project.Action
import ProgramConnector.Project.Update
import ProgramConnector.Report.Event
import ProgramConnector.Report.Filter
import ProgramConnector.Report.Verbosity
import ProgramConnector.Scaffold.Bundle
import ProgramConnector.Scaffold.Package
import ProgramConnector.Scaffold.Upgrade
import ProgramConnector.Scaffold.Version
import ProgramConnector.Schema.Basic
import ProgramConnector.Schema.Document
import ProgramConnector.Schema.Titles
import ProgramConnector.Settings.Basic
import ProgramConnector.Settings.Load
import ProgramConnector.Settings.Readers
import ProgramConnector.Settings.Value
import ProgramConnector.Settings.Variables
import ProgramConnector.Text.CaseMap
import ProgramConnector.Text.Classes
import ProgramConnector.Text.CodePointSet
import ProgramConnector.Text.Lenient
import ProgramConnector.Text.Lines
import ProgramConnector.Text.Quoted
import ProgramConnector.Toml.DateTime
import ProgramConnector.Toml.Document
import ProgramConnector.Toml.Number
import ProgramConnector.Toml.Table
import ProgramConnector.Toml.Text
import ProgramConnector.TypeScript.Compiler
import ProgramConnector.TypeScript.Declaration
import ProgramConnector.TypeScript.DocComment
import ProgramConnector.TypeScript.Expression
import ProgramConnector.TypeScript.Profile
import ProgramConnector.Wrapper.Basic
import ProgramConnector.Proofs.TypeScript.NameSearch
import ProgramConnector.Proofs.TypeScript.BlockGrowth
import ProgramConnector.Proofs.TypeScript.DiscoveryOrder
import ProgramConnector.Proofs.TypeScript.CompileSteps
import ProgramConnector.Proofs.TypeScript.ClosedBlock
import ProgramConnector.Proofs.Connector.ModuleNames
import ProgramConnector.Proofs.Naming.Reading
import ProgramConnector.Proofs.Naming.TypeNames
import ProgramConnector.Proofs.TypeScript.TextParts
import ProgramConnector.Proofs.TypeScript.Scanning
import ProgramConnector.Proofs.TypeScript.Alternatives
import ProgramConnector.Proofs.TypeScript.Grouping
import ProgramConnector.Proofs.Json.Values
import ProgramConnector.Proofs.Json.Reordering
import ProgramConnector.Proofs.Schema.NormalForm
import ProgramConnector.Proofs.Schema.RoundTrip
import ProgramConnector.Proofs.Schema.NullKeywords
import ProgramConnector.Proofs.Schema.TitledPaths
import ProgramConnector.Proofs.Schema.TitledTwice
import ProgramConnector.Proofs.TypeScript.Simulation
import ProgramConnector.Proofs.TypeScript.Agreement
import ProgramConnector.Proofs.TypeScript.ReachedReferences
import ProgramConnector.Proofs.TypeScript.SameShape
import ProgramConnector.Proofs.TypeScript.BareReferences
import ProgramConnector.Proofs.TypeScript.BareNames
import ProgramConnector.Proofs.TypeScript.Accounting
import ProgramConnector.Proofs.TypeScript.Termination
import ProgramConnector.Proofs.TypeScript.NamedElements
import ProgramConnector.Proofs.Naming.IdentifierStart
import ProgramConnector.Proofs.TypeScript.DeclaredNames
import ProgramConnector.Proofs.TypeScript.CircularAliases
import ProgramConnector.Proofs.Naming.FunctionNames
import ProgramConnector.Proofs.Catalog.Acceptance
import ProgramConnector.Proofs.Catalog.LoadOrder
import ProgramConnector.Proofs.Catalog.BindableNames
import ProgramConnector.Proofs.Naming.SolidNames
import ProgramConnector.Proofs.TypeScript.CommentText
import ProgramConnector.Proofs.Wrapper.ModuleReading
import ProgramConnector.Proofs.Wrapper.FunctionReading
import ProgramConnector.Proofs.Wrapper.TemplateReading
import ProgramConnector.Proofs.Wrapper.TemplateValue
import ProgramConnector.Proofs.Catalog.TopLevelNames
import ProgramConnector.Proofs.Text.Ascii
import ProgramConnector.Proofs.Files.Entries
import ProgramConnector.Proofs.Files.Resolution
import ProgramConnector.Proofs.Files.Changes
import ProgramConnector.Proofs.Files.Paths
import ProgramConnector.Proofs.Files.LinkedPaths
import ProgramConnector.Proofs.Files.Writing
import ProgramConnector.Proofs.Files.Directory
import ProgramConnector.Proofs.Project.Writing
import ProgramConnector.Proofs.Project.UpdateEffect
import ProgramConnector.Proofs.Catalog.Rediscovery
import ProgramConnector.Proofs.Catalog.Reloading
import ProgramConnector.Proofs.Project.UpdateTwice
import ProgramConnector.Proofs.Scaffold.UpgradeEffect
import ProgramConnector.Proofs.Scaffold.UpgradeTwice
import ProgramConnector.Proofs.Results
import ProgramConnector.Proofs.Wrapper.CommentRemoval
import ProgramConnector.Proofs.Wrapper.TypeMentions
import ProgramConnector.Proofs.Catalog.BarePrograms
import ProgramConnector.Proofs.Catalog.ConfigurationExclusion
import ProgramConnector.Proofs.Catalog.FoundOrder
import ProgramConnector.Proofs.Connector.ModuleAgreement
import ProgramConnector.Proofs.Project.ImportedTypes
import ProgramConnector.Proofs.Project.SoftConfiguration
import ProgramConnector.Proofs.Settings.Layers
import ProgramConnector.Proofs.Settings.Records
import ProgramConnector.Proofs.Settings.Precedence
import ProgramConnector.Proofs.TypeScript.SameValues
import ProgramConnector.Proofs.TypeScript.Composition
import ProgramConnector.Proofs.TypeScript.ToldApart
import ProgramConnector.Proofs.TypeScript.MetNames
import ProgramConnector.Proofs.TypeScript.AppendedDeclarations
import ProgramConnector.Proofs.TypeScript.TitledNames
import ProgramConnector.Proofs.Naming.WordBreaks
import ProgramConnector.Proofs.Text.Pieces
import ProgramConnector.Proofs.TypeScript.CommentBlocks
import ProgramConnector.Proofs.Wrapper.DocBlocks
import ProgramConnector.Proofs.Json.TextReading
import ProgramConnector.Proofs.TypeScript.MemberReading
import ProgramConnector.Proofs.TypeScript.WholeTypes
import ProgramConnector.Proofs.TypeScript.MemberLines
import ProgramConnector.Proofs.Numeric.Digits
import ProgramConnector.Proofs.Scaffold.VersionTexts
import ProgramConnector.Proofs.Naming.Spellings
import ProgramConnector.Proofs.Json.Atoms
import ProgramConnector.Proofs.TypeScript.LiteralUnions
import ProgramConnector.Proofs.Json.Equality
import ProgramConnector.Proofs.Json.RepeatedKeys
import ProgramConnector.Proofs.Program.ConfigurationLayouts
