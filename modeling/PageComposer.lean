import PageComposer.Assets
import PageComposer.Cache
import PageComposer.Cache.Figures
import PageComposer.Chain
import PageComposer.Component
import PageComposer.Decimal.Layout
import PageComposer.Decimal.Places
import PageComposer.Decimal.Quotient
import PageComposer.Decimal.Shortest
import PageComposer.Echo
import PageComposer.Embedding
import PageComposer.Fault
import PageComposer.Fault.Construction
import PageComposer.Files
import PageComposer.Files.Decoding
import PageComposer.Files.Path
import PageComposer.Fingerprint
import PageComposer.Json
import PageComposer.Keyed
import PageComposer.Log.Event
import PageComposer.Log.Output
import PageComposer.Metrics
import PageComposer.Proc
import PageComposer.Proofs.Cache.Changes
import PageComposer.Proofs.Cache.Entries
import PageComposer.Proofs.Cache.Provenance
import PageComposer.Proofs.Cache.Transparency
import PageComposer.Proofs.Chain.Growth
import PageComposer.Proofs.Chain.Threads
import PageComposer.Proofs.Component.Calls
import PageComposer.Proofs.Component.Extension
import PageComposer.Proofs.Component.Frame
import PageComposer.Proofs.Component.Levels
import PageComposer.Proofs.Keyed
import PageComposer.Proofs.Likeness.Stores
import PageComposer.Proofs.Likeness.Values
import PageComposer.Proofs.Proc.Company
import PageComposer.Proofs.Proc.Course
import PageComposer.Proofs.Proc.Guarantee
import PageComposer.Proofs.Proc.Interleaving
import PageComposer.Proofs.Proc.Mirror
import PageComposer.Proofs.Proc.Schedule
import PageComposer.Proofs.Proc.Surroundings
import PageComposer.Proofs.Registration.Acceptance
import PageComposer.Proofs.Registration.Atomicity
import PageComposer.Proofs.Registration.Commutation
import PageComposer.Proofs.Registration.Effects
import PageComposer.Proofs.Registration.History
import PageComposer.Proofs.Registration.Problems
import PageComposer.Proofs.Registration.Rejection
import PageComposer.Proofs.Registration.Reloads
import PageComposer.Proofs.Rendering.Agreement
import PageComposer.Proofs.Rendering.Balance
import PageComposer.Proofs.Rendering.Books
import PageComposer.Proofs.Rendering.Calls
import PageComposer.Proofs.Rendering.Company
import PageComposer.Proofs.Rendering.CompileStage
import PageComposer.Proofs.Rendering.Failures
import PageComposer.Proofs.Rendering.Guarantee
import PageComposer.Proofs.Rendering.Independence
import PageComposer.Proofs.Rendering.Journal
import PageComposer.Proofs.Rendering.Mirror
import PageComposer.Proofs.Rendering.Replies
import PageComposer.Proofs.Rendering.Report
import PageComposer.Proofs.Rendering.Stages
import PageComposer.Proofs.Rendering.Tracking
import PageComposer.Proofs.Snapshot
import PageComposer.Proofs.Update
import PageComposer.Proofs.Watching.Batches
import PageComposer.Proofs.Watching.Following
import PageComposer.Proofs.Watching.Histories
import PageComposer.Proofs.Watching.Repetition
import PageComposer.Proofs.Watching.Steps
import PageComposer.Registry
import PageComposer.Reload
import PageComposer.Render
import PageComposer.Schedule
import PageComposer.Script
import PageComposer.Session
import PageComposer.Settings
import PageComposer.Settings.EnvFile
import PageComposer.Settings.Loading
import PageComposer.Settings.WholeNumber
import PageComposer.Signature
import PageComposer.Sorting.Merge
import PageComposer.Sorting.Run
import PageComposer.Step
import PageComposer.Template.Access
import PageComposer.Template.Braces
import PageComposer.Template.Call
import PageComposer.Template.Code
import PageComposer.Template.Compile
import PageComposer.Template.Constant
import PageComposer.Template.Conversion
import PageComposer.Template.Course
import PageComposer.Template.Cursor
import PageComposer.Template.Dialect
import PageComposer.Template.Eval
import PageComposer.Template.Execution
import PageComposer.Template.Filter
import PageComposer.Template.Intake
import PageComposer.Template.ItemFilter
import PageComposer.Template.Iteration
import PageComposer.Template.JsonText
import PageComposer.Template.Knot
import PageComposer.Template.Layer
import PageComposer.Template.Lexer
import PageComposer.Template.Listing
import PageComposer.Template.Listing.Extent
import PageComposer.Template.Listing.Layout
import PageComposer.Template.Literal
import PageComposer.Template.Loop
import PageComposer.Template.Markup
import PageComposer.Template.Member
import PageComposer.Template.Method
import PageComposer.Template.Names
import PageComposer.Template.NumberFilter
import PageComposer.Template.Operator
import PageComposer.Template.Page
import PageComposer.Template.Parser
import PageComposer.Template.Pattern
import PageComposer.Template.Sections
import PageComposer.Template.Snapshot
import PageComposer.Template.Sorting
import PageComposer.Template.Store
import PageComposer.Template.Syntax
import PageComposer.Template.Test
import PageComposer.Template.TextFilter
import PageComposer.Template.TextMethod
import PageComposer.Template.Token
import PageComposer.Template.Variables
import PageComposer.Template.Vocabulary
import PageComposer.Text.CharacterName
import PageComposer.Text.CharacterNames.Alphabets
import PageComposer.Text.CharacterNames.Further
import PageComposer.Text.CharacterNames.Historic
import PageComposer.Text.CharacterNames.Pictographs
import PageComposer.Text.CharacterNames.Signs
import PageComposer.Text.Classes
import PageComposer.Text.Compatibility
import PageComposer.Text.CompatibilityTables
import PageComposer.Text.Entities
import PageComposer.Text.Folding
import PageComposer.Text.LetterCase
import PageComposer.Text.Pieces
import PageComposer.Text.Property
import PageComposer.Text.Quoted
import PageComposer.Text.Search
import PageComposer.Value
import PageComposer.Value.Arithmetic
import PageComposer.Value.Equality
import PageComposer.Value.Format
import PageComposer.Value.Format.Spec
import PageComposer.Value.Number
import PageComposer.Value.Table
import PageComposer.Value.Text
import PageComposer.Watch
import PageComposer.World
import PageComposer.Proofs.Cache.Bounds
import PageComposer.Proofs.Cache.Recency
import PageComposer.Proofs.Modules.Loading
import PageComposer.Proofs.Modules.Histories
import PageComposer.Proofs.Component.Gate
import PageComposer.Proofs.Entries
import PageComposer.Proofs.Registration.Interchange
import PageComposer.Proofs.Registration.Bundles
import PageComposer.Proofs.Rendering.Context
import PageComposer.Proofs.Component.Bundled
import PageComposer.Proofs.Files.Rewriting
import PageComposer.Proofs.Log.Scopes
import PageComposer.Proofs.Rendering.Files
import PageComposer.Proofs.Log.Routine
import PageComposer.Proofs.Watching.Elsewhere
import PageComposer.Proofs.Turns
import PageComposer.Proofs.Watching.Lifecycle
import PageComposer.Proofs.Log.Tasks
import PageComposer.Proofs.Cache.Accounts
import PageComposer.Proofs.Log.Configuration
import PageComposer.Proofs.Registration.Views
