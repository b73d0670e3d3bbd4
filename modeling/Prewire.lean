import Prewire.Beans.Factory
import Prewire.Beans.Value
import Prewire.Decimal.Shortest
import Prewire.Failure
import Prewire.Files.Path
import Prewire.Files.Tree
import Prewire.Java.ClassName
import Prewire.Java.Code
import Prewire.Java.Code.Outline
import Prewire.Java.Code.Template
import Prewire.Java.Expression
import Prewire.Java.Imports
import Prewire.Java.JavaType
import Prewire.Java.Layout
import Prewire.Java.Literal
import Prewire.Java.Number
import Prewire.Java.Primitive
import Prewire.Java.SourceFile
import Prewire.Json.Reader
import Prewire.Json.Value
import Prewire.Notice
import Prewire.Options.Basic
import Prewire.Options.Reader
import Prewire.Output.OutputClass
import Prewire.Output.Reflection
import Prewire.Output.Target
import Prewire.Pass.Basic
import Prewire.Pass.Listeners
import Prewire.Pass.Source
import Prewire.Pass.Toggles
import Prewire.Plan.BeanPlan
import Prewire.Plan.Dependency
import Prewire.Plan.Detection
import Prewire.Plan.Matching
import Prewire.Proofs.Beans.Acyclic
import Prewire.Proofs.Beans.Arguments
import Prewire.Proofs.Beans.Congruence
import Prewire.Proofs.Beans.Reordering
import Prewire.Proofs.Beans.Resolution
import Prewire.Proofs.Beans.ReturnType
import Prewire.Proofs.Beans.Values
import Prewire.Proofs.Distinct
import Prewire.Proofs.Failure
import Prewire.Proofs.Java.Balance
import Prewire.Proofs.Java.ClassName
import Prewire.Proofs.Java.Closed
import Prewire.Proofs.Java.Code
import Prewire.Proofs.Java.Denotation
import Prewire.Proofs.Java.Imports
import Prewire.Proofs.Java.Literal
import Prewire.Proofs.Java.LiteralReader
import Prewire.Proofs.Java.NormalForm
import Prewire.Proofs.Java.NumberReader
import Prewire.Proofs.Java.Rendering
import Prewire.Proofs.Java.Scope
import Prewire.Proofs.Java.Template
import Prewire.Proofs.Java.Variables
import Prewire.Proofs.Output.FreshName
import Prewire.Proofs.Output.Growth
import Prewire.Proofs.Output.Merging
import Prewire.Proofs.Output.Reflection
import Prewire.Proofs.Output.Reservation
import Prewire.Proofs.Output.Routines
import Prewire.Proofs.Output.Signatures
import Prewire.Proofs.Pass.Beans
import Prewire.Proofs.Pass.Closed
import Prewire.Proofs.Pass.Failing
import Prewire.Proofs.Pass.ListenerAccess
import Prewire.Proofs.Pass.Listeners
import Prewire.Proofs.Pass.MainRoutine
import Prewire.Proofs.Pass.Reflection
import Prewire.Proofs.Pass.Trace
import Prewire.Proofs.Plan.AbstractTypes
import Prewire.Proofs.Plan.CollectionArguments
import Prewire.Proofs.Plan.FactoryMethod
import Prewire.Proofs.Plan.Hiding
import Prewire.Proofs.Plan.InjectedMembers
import Prewire.Proofs.Plan.LeastTier
import Prewire.Proofs.Plan.NullArguments
import Prewire.Proofs.Plan.Overload
import Prewire.Proofs.Plan.TargetType
import Prewire.Proofs.Registration.Access
import Prewire.Proofs.Registration.Balance
import Prewire.Proofs.Registration.Bindings
import Prewire.Proofs.Registration.Block
import Prewire.Proofs.Registration.Configured
import Prewire.Proofs.Registration.Customizing
import Prewire.Proofs.Registration.InlineArguments
import Prewire.Proofs.Registration.LiteralConversion
import Prewire.Proofs.Registration.Literals
import Prewire.Proofs.Registration.Metadata
import Prewire.Proofs.Registration.NamedClasses
import Prewire.Proofs.Registration.PassedTypes
import Prewire.Proofs.Registration.Recording
import Prewire.Proofs.Registration.ResolvableTypes
import Prewire.Proofs.Registration.Routing
import Prewire.Proofs.Registration.ValueClasses
import Prewire.Proofs.Registration.Variables
import Prewire.Proofs.Registration.WholeNumbers
import Prewire.Proofs.Registration.Writing
import Prewire.Proofs.Registration.WrittenTypes
import Prewire.Proofs.Registration.WrittenValues
import Prewire.Proofs.Templates.Creation
import Prewire.Proofs.Templates.Failures
import Prewire.Proofs.Templates.Pass
import Prewire.Proofs.Templates.Registration
import Prewire.Proofs.Templates.Value
import Prewire.Proofs.Text.Split
import Prewire.Proofs.Types.AddedMethod
import Prewire.Proofs.Types.Ancestry
import Prewire.Proofs.Types.Bounds
import Prewire.Proofs.Types.Conversion
import Prewire.Proofs.Types.Corresponding
import Prewire.Proofs.Types.Erasure
import Prewire.Proofs.Types.FewerBounds
import Prewire.Proofs.Types.Hierarchy
import Prewire.Proofs.Types.Invariance
import Prewire.Proofs.Types.Overriding
import Prewire.Proofs.Types.Reachability
import Prewire.Proofs.Types.Reordering
import Prewire.Proofs.Types.Substitution
import Prewire.Proofs.Types.TypeArguments
import Prewire.Registration.Access
import Prewire.Registration.Chain
import Prewire.Registration.Creation
import Prewire.Registration.Customizer
import Prewire.Registration.Injection
import Prewire.Registration.Routing
import Prewire.Registration.TypeExpression
import Prewire.Registration.ValueExpression
import Prewire.Text.Quoted
import Prewire.Text.Split
import Prewire.Text.Uppercase
import Prewire.Types.Assignable
import Prewire.Types.Declaration
import Prewire.Types.Hierarchy
import Prewire.Types.Known
import Prewire.Types.Member
import Prewire.Types.Preloaded
import Prewire.Types.Registry
import Prewire.Types.Supertypes
