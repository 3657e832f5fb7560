import JsonApi.Binary64
import JsonApi.CommandLine.Arguments
import JsonApi.CommandLine.Run
import JsonApi.Config
import JsonApi.Dictionary
import JsonApi.Document.Assembly
import JsonApi.Document.WorkQueue
import JsonApi.Fault
import JsonApi.Filter.Basic
import JsonApi.Filter.Like
import JsonApi.Filter.Predicate
import JsonApi.Filter.Reading
import JsonApi.HostName.NormalForm
import JsonApi.HostName.Reading
import JsonApi.HostName.Tables
import JsonApi.Json.Basic
import JsonApi.Json.Written
import JsonApi.Main
import JsonApi.Proofs.Binary64.Exactness
import JsonApi.Proofs.Binary64.Monotonicity
import JsonApi.Proofs.Dictionary
import JsonApi.Proofs.Document.Change
import JsonApi.Proofs.Document.Coherence
import JsonApi.Proofs.Document.Compound
import JsonApi.Proofs.Document.Ending
import JsonApi.Proofs.Document.Exploration
import JsonApi.Proofs.Document.Failure
import JsonApi.Proofs.Document.FullLinkage
import JsonApi.Proofs.Document.LateFailure
import JsonApi.Proofs.Document.Levels
import JsonApi.Proofs.Document.Linkage
import JsonApi.Proofs.Document.PageLinks
import JsonApi.Proofs.Document.Presentation
import JsonApi.Proofs.Document.Projection
import JsonApi.Proofs.Document.Seating
import JsonApi.Proofs.Document.SlotTable
import JsonApi.Proofs.Document.SparseFields
import JsonApi.Proofs.Document.Step
import JsonApi.Proofs.Document.Visit
import JsonApi.Proofs.Document.WorkLoop
import JsonApi.Proofs.Document.WorkOrder
import JsonApi.Proofs.Document.WorkPlaces
import JsonApi.Proofs.Document.WorkStep
import JsonApi.Proofs.Filter.Canonical
import JsonApi.Proofs.Filter.Compilation
import JsonApi.Proofs.Filter.Composition
import JsonApi.Proofs.Filter.DerivedOperators
import JsonApi.Proofs.Filter.DirectReading
import JsonApi.Proofs.Filter.EmptyGroups
import JsonApi.Proofs.Filter.Faults
import JsonApi.Proofs.Filter.FieldPaths
import JsonApi.Proofs.Filter.Grammar
import JsonApi.Proofs.Filter.IntegerComparison
import JsonApi.Proofs.Filter.Leaves
import JsonApi.Proofs.Filter.Like
import JsonApi.Proofs.Filter.LikeCursors
import JsonApi.Proofs.Filter.Meaning
import JsonApi.Proofs.Filter.Operands
import JsonApi.Proofs.Filter.Shape
import JsonApi.Proofs.Filter.Support
import JsonApi.Proofs.Filter.Yields
import JsonApi.Proofs.FirstOccurrences
import JsonApi.Proofs.Json.Order
import JsonApi.Proofs.Outcome
import JsonApi.Proofs.Query.Appending
import JsonApi.Proofs.Query.CommaList
import JsonApi.Proofs.Query.Complexity
import JsonApi.Proofs.Query.Decoding
import JsonApi.Proofs.Query.Encoding
import JsonApi.Proofs.Query.ErrorFamilies
import JsonApi.Proofs.Query.FilterBranch
import JsonApi.Proofs.Query.FilterWriting
import JsonApi.Proofs.Query.Fixpoint
import JsonApi.Proofs.Query.Form
import JsonApi.Proofs.Query.IncludeResolution
import JsonApi.Proofs.Query.Key
import JsonApi.Proofs.Query.LeafPaths
import JsonApi.Proofs.Query.ListSpellings
import JsonApi.Proofs.Query.Page
import JsonApi.Proofs.Query.PageParameters
import JsonApi.Proofs.Query.QueryText
import JsonApi.Proofs.Query.Refusal
import JsonApi.Proofs.Query.Report
import JsonApi.Proofs.Query.RootPath
import JsonApi.Proofs.Query.SortKeys
import JsonApi.Proofs.Query.Soundness
import JsonApi.Proofs.Query.UnknownOperators
import JsonApi.Proofs.Schema
import JsonApi.Proofs.Sorting.StableSort
import JsonApi.Proofs.Store.Collection
import JsonApi.Proofs.Store.Contents
import JsonApi.Proofs.Store.FieldValues
import JsonApi.Proofs.Store.FixtureFit
import JsonApi.Proofs.Store.FixtureOrder
import JsonApi.Proofs.Store.Index
import JsonApi.Proofs.Store.Loading
import JsonApi.Proofs.Store.Paging
import JsonApi.Proofs.Store.Representation
import JsonApi.Proofs.Store.SortField
import JsonApi.Proofs.Text.Digits
import JsonApi.Proofs.Text.Percent
import JsonApi.Proofs.Text.Pieces
import JsonApi.Proofs.Url.Delimiters
import JsonApi.Proofs.Word
import JsonApi.Query.Parameters
import JsonApi.Query.Specification
import JsonApi.Schema
import JsonApi.Sorting
import JsonApi.Store.Basic
import JsonApi.Store.Record
import JsonApi.Text.Basic
import JsonApi.Text.Quoted
import JsonApi.Toml.Document
import JsonApi.Toml.Scalar
import JsonApi.Url.Basic
import JsonApi.Url.Reading
import JsonApi.Word
