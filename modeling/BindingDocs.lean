import BindingDocs.Main
import BindingDocs.Proofs.ScanParts
import BindingDocs.Proofs.Lines
import BindingDocs.Proofs.Segments
import BindingDocs.Proofs.ArgumentTypes
import BindingDocs.Proofs.EventGroups
import BindingDocs.Proofs.Fullest
import BindingDocs.Proofs.ScanFunctions
import BindingDocs.Proofs.KnownTypes
import BindingDocs.Proofs.Placeholders
import BindingDocs.Proofs.OutlineByScope
import BindingDocs.Proofs.FullestDocumented
import BindingDocs.Proofs.EventsApart
import BindingDocs.Proofs.ByteOrder
import BindingDocs.Proofs.SortedByName
import BindingDocs.Proofs.SourceOrder
import BindingDocs.Proofs.LetterCase
import BindingDocs.Proofs.Titles
import BindingDocs.Proofs.PageNames
import BindingDocs.Proofs.FileTrees
import BindingDocs.Proofs.Publishing
import BindingDocs.Proofs.EventPages
import BindingDocs.Proofs.Pathnames
import BindingDocs.Proofs.BestEffort
import BindingDocs.Proofs.Preparing
import BindingDocs.Proofs.RootedTrees
import BindingDocs.Proofs.Reading
import BindingDocs.Proofs.Outcome
import BindingDocs.Proofs.Rerunning
import BindingDocs.Proofs.Confinement
import BindingDocs.Proofs.ScriptNames
import BindingDocs.Proofs.ReadingBack
import BindingDocs.Proofs.WrittenNames
import BindingDocs.Proofs.SignatureLines
import BindingDocs.Proofs.Scalars
import BindingDocs.Proofs.Manifests
import BindingDocs.Proofs.Footers
import BindingDocs.Proofs.DeclarationPattern
import BindingDocs.Proofs.DeclaredTypes
import BindingDocs.Proofs.UsageMessages
import BindingDocs.Proofs.WrittenArguments
import BindingDocs.Proofs.NameWords
import BindingDocs.Proofs.Sentences
import BindingDocs.Proofs.VerbStems
import BindingDocs.Proofs.PageLinks
import BindingDocs.Proofs.ArgumentUses
import BindingDocs.Proofs.ExportNames
import BindingDocs.Proofs.CatalogSteps
