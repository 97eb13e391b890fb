import TypedQuery.Artifact.Request
import TypedQuery.Emit.Op
import TypedQuery.Main
import TypedQuery.Model.Registry
import TypedQuery.Names.Path
import TypedQuery.Proofs.Lineage.Reduction
import TypedQuery.Proofs.Lineage.Acyclic
import TypedQuery.Proofs.Fallible
import TypedQuery.Proofs.Model.Family
import TypedQuery.Proofs.Model.Building
import TypedQuery.Proofs.Model.Rules
import TypedQuery.Proofs.Schema.Regular
import TypedQuery.Proofs.Model.Inheritance
import TypedQuery.Proofs.Builder.Fields
import TypedQuery.Proofs.Builder.Descriptions
import TypedQuery.Proofs.Emit.Indentation
import TypedQuery.Proofs.Artifact.Scripts
import TypedQuery.Proofs.Artifact.Failures
import TypedQuery.Proofs.Names.Extensional
import TypedQuery.Proofs.Model.Order
import TypedQuery.Proofs.Emit.Courses
import TypedQuery.Proofs.Emit.Lookup
import TypedQuery.Proofs.Artifact.Order
import TypedQuery.Proofs.Artifact.CommonTypes
import TypedQuery.Proofs.Artifact.Subtypes
import TypedQuery.Proofs.Artifact.Program
import TypedQuery.Proofs.Emit.Separators
import TypedQuery.Proofs.Artifact.Imports
import TypedQuery.Proofs.Sdl.Names
import TypedQuery.Proofs.Emit.Modules
import TypedQuery.Proofs.Artifact.Links
import TypedQuery.Proofs.Artifact.Closed
import TypedQuery.Proofs.Artifact.Dangling
import TypedQuery.Proofs.Model.Pagination
import TypedQuery.Proofs.Output.Files
import TypedQuery.Proofs.Output.Generation
import TypedQuery.Proofs.Output.Interruption
import TypedQuery.Proofs.Schema.Extensions
import TypedQuery.Proofs.Artifact.Balance
import TypedQuery.Proofs.Output.Distinct
import TypedQuery.Proofs.Artifact.Exports
import TypedQuery.Proofs.Model.Preorder
import TypedQuery.Proofs.Model.Conflicts
import TypedQuery.Proofs.Emit.Regions
import TypedQuery.Proofs.Emit.TypeTexts
import TypedQuery.Proofs.Builder.Accessors
import TypedQuery.Proofs.Emit.LineBreaks
import TypedQuery.Proofs.Model.Lawful
import TypedQuery.Proofs.Model.Failures
import TypedQuery.Proofs.Schema.Regrouped
import TypedQuery.Proofs.Model.Regrouped
import TypedQuery.Proofs.Model.Sharing
import TypedQuery.Proofs.Model.Repetition
import TypedQuery.Proofs.CommandLine.Grammar
import TypedQuery.Proofs.Model.Roots
import TypedQuery.Proofs.Emit.Header
import TypedQuery.Proofs.Artifact.Descriptors
import TypedQuery.Proofs.Names.Visits
import TypedQuery.Proofs.Builder.Members
import TypedQuery.Proofs.Schema.Spelling
