import Scaffolder.Main
import Scaffolder.Proofs.Text.Digits
import Scaffolder.Proofs.Text.Pieces
import Scaffolder.Proofs.ProjectVersion
import Scaffolder.Proofs.PluginKey
import Scaffolder.Proofs.PluginKey.Spelling
import Scaffolder.Proofs.PluginName
import Scaffolder.Proofs.Registry
import Scaffolder.Proofs.Registry.Growth
import Scaffolder.Proofs.Registry.Acceptance
import Scaffolder.Proofs.Registry.Criterion
import Scaffolder.Proofs.Selection
import Scaffolder.Proofs.Selection.Attempts
import Scaffolder.Proofs.Selection.KeyCheck
import Scaffolder.Proofs.Selection.Order
import Scaffolder.Proofs.Selection.Refusals
import Scaffolder.Proofs.Selection.Spelling
import Scaffolder.Proofs.Arguments.Reading
import Scaffolder.Proofs.Arguments.Agreement
import Scaffolder.Proofs.Arguments.Descent
import Scaffolder.Proofs.Arguments.Items
import Scaffolder.Proofs.Directory
import Scaffolder.Proofs.Directory.Folders
import Scaffolder.Proofs.CommandTree
import Scaffolder.Proofs.CommandTree.Dispatch
import Scaffolder.Proofs.CommandTree.PluginTable
import Scaffolder.Proofs.CommandTree.Shape
import Scaffolder.Proofs.Runs
import Scaffolder.Proofs.Yaml.Plain
import Scaffolder.Proofs.Yaml.Quoted
import Scaffolder.Proofs.Yaml.Block
import Scaffolder.Proofs.Yaml.Scan
import Scaffolder.Proofs.Yaml.Steps
import Scaffolder.Proofs.Yaml.Tokens
import Scaffolder.Proofs.Yaml.Document
import Scaffolder.Proofs.ConfigText
import Scaffolder.Proofs.Lifecycle
import Scaffolder.Proofs.FirstLook
import Scaffolder.Proofs.Reopening
import Scaffolder.Proofs.Writing
import Scaffolder.Proofs.Recording
import Scaffolder.Proofs.Recording.Order
import Scaffolder.Proofs.Saving
import Scaffolder.Proofs.GenericHelp
import Scaffolder.Proofs.VersionFlag
