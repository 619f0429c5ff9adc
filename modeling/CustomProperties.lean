import CustomProperties.CommandLine.Run
import CustomProperties.FileSystem.Basic
import CustomProperties.Main
import CustomProperties.Proofs.Descendants
import CustomProperties.Proofs.Overlay
import CustomProperties.Proofs.StylesheetText
import CustomProperties.Proofs.Accounting
import CustomProperties.Proofs.Independence
import CustomProperties.Proofs.Legibility
import CustomProperties.Proofs.Elementwise
import CustomProperties.Proofs.FileTrees
import CustomProperties.Proofs.OutputFiles
import CustomProperties.Proofs.WrittenFiles
import CustomProperties.Proofs.CommandRuns
import CustomProperties.Proofs.ElementIds
import CustomProperties.Proofs.UntouchedBuild
import CustomProperties.Proofs.LenientSettings
import CustomProperties.Proofs.MarkedLines
import CustomProperties.Proofs.CommandOutcomes
import CustomProperties.Proofs.OptionsAgreement
import CustomProperties.Proofs.Bundling
import CustomProperties.Proofs.BuildAndRender
import CustomProperties.Proofs.Rebuilding
import CustomProperties.Proofs.Delivery
import CustomProperties.Proofs.Grouping
import CustomProperties.Proofs.DistinctNames
import CustomProperties.Proofs.DepthLimits
import CustomProperties.Proofs.MergeLaws
import CustomProperties.Proofs.VerboseFlag
import CustomProperties.Proofs.ShownRecords
import CustomProperties.Proofs.NameLimits
import CustomProperties.Proofs.Spelling
import CustomProperties.Proofs.ElementForms
import CustomProperties.Proofs.SharedFiles
import CustomProperties.Proofs.FileNaming
import CustomProperties.Proofs.Presentation
import CustomProperties.Proofs.RepeatedNames
import CustomProperties.Proofs.BundleLaws
import CustomProperties.Proofs.BuildsInTurn
import CustomProperties.Proofs.VariableTables
import CustomProperties.Proofs.VariableMaps
import CustomProperties.Proofs.LiteralEnds
import CustomProperties.Proofs.ModulePlaces
