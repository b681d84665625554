import SymbolFootprint.Main
import SymbolFootprint.Proofs.Analysis.Fallback
import SymbolFootprint.Proofs.Backend.Agreement
import SymbolFootprint.Proofs.Fixture.Extension
import SymbolFootprint.Proofs.Fixture.Truncation
import SymbolFootprint.Proofs.Report.Reproducibility
import SymbolFootprint.Proofs.Report.Views
import SymbolFootprint.Proofs.Demangler.Segments
import SymbolFootprint.Proofs.Demangler.Recovery
import SymbolFootprint.Proofs.Demangler.Runs
import SymbolFootprint.Proofs.FileTree.Lookup
import SymbolFootprint.Proofs.Discovery.Exactness
import SymbolFootprint.Proofs.Discovery.Repetition
import SymbolFootprint.Proofs.Report.Balance
import SymbolFootprint.Proofs.Report.Grouping
import SymbolFootprint.Proofs.Report.Percentages
import SymbolFootprint.Proofs.Fixture.Generated
import SymbolFootprint.Proofs.Listing.Unsized
import SymbolFootprint.Proofs.Report.TypeNames
import SymbolFootprint.Proofs.CommandLine.Status
import SymbolFootprint.Proofs.Demangler.Arity
import SymbolFootprint.Proofs.Demangler.Extension
import SymbolFootprint.Proofs.Report.Rankings
import SymbolFootprint.Proofs.Listing.Entries
import SymbolFootprint.Proofs.Backend.FirstSuccess
import SymbolFootprint.Proofs.Path.AssemblyName
import SymbolFootprint.Proofs.Decimal.Digits
import SymbolFootprint.Proofs.Report.Kilobytes
import SymbolFootprint.Proofs.Listing.Isolation
import SymbolFootprint.Proofs.Discovery.StandardNames
import SymbolFootprint.Proofs.Demangler.Delimiter
import SymbolFootprint.Proofs.Report.DigitGroups
