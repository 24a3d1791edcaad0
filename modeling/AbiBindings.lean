import AbiBindings.Main
import AbiBindings.Proofs.StructIds
import AbiBindings.Proofs.DistinctNames
import AbiBindings.Proofs.References
import AbiBindings.Proofs.Coherence
import AbiBindings.Proofs.Conversions
import AbiBindings.Proofs.Signatures
import AbiBindings.Proofs.EventLayout
import AbiBindings.Proofs.Completeness
import AbiBindings.Proofs.Precision
import AbiBindings.Proofs.Modes
import AbiBindings.Proofs.WordBindings
import AbiBindings.Proofs.Quoting
import AbiBindings.Proofs.Insertion
import AbiBindings.Proofs.Deployment
import AbiBindings.Proofs.CallingWays
import AbiBindings.Proofs.TypeGrammar
import AbiBindings.Proofs.TypeRoundTrip
import AbiBindings.Proofs.UniqueSignatures
import AbiBindings.Proofs.Brackets
import AbiBindings.Proofs.CodeText
import AbiBindings.Proofs.NestedSteps
import AbiBindings.Proofs.NestedRecords
import AbiBindings.Proofs.NestedPages
import AbiBindings.Proofs.OfferedCode
import AbiBindings.Proofs.Places
import AbiBindings.Proofs.Installing
import AbiBindings.Proofs.Writing
import AbiBindings.Proofs.Extension
import AbiBindings.Proofs.Identifiers
import AbiBindings.Proofs.MemoRuns
import AbiBindings.Proofs.ScopeRuns
import AbiBindings.Proofs.Indentation
import AbiBindings.Proofs.StructNames
import AbiBindings.Proofs.DeclaredTuples
import AbiBindings.Proofs.Reorderings
import AbiBindings.Proofs.HintedNames
import AbiBindings.Proofs.Packages
import AbiBindings.Proofs.OutputPaths
import AbiBindings.Proofs.TupleSpellings
import AbiBindings.Proofs.UnknownMembers
