import Reflection.Catalogue.Codecs
import Reflection.Catalogue.Members
import Reflection.Catalogue.Types
import Reflection.Enumeration
import Reflection.Guard
import Reflection.Query
import Reflection.Report.Types
import Reflection.Session
import Reflection.Storage.Run
import Reflection.View.Survey
import Reflection.Module.Run
import Reflection.Proofs.Module.Steps
import Reflection.Proofs.Module.Order
import Reflection.Proofs.Registration
import Reflection.Proofs.Module.Hooks
import Reflection.Proofs.Module.Ownership
import Reflection.Proofs.Module.Unloading
import Reflection.Proofs.Module.Refusals
import Reflection.Proofs.Module.Compatibility
import Reflection.Mutation
import Reflection.Proofs.Access.Const
import Reflection.Proofs.Access.Parents
import Reflection.Proofs.Access.Inheritance
import Reflection.Proofs.Access.Update
import Reflection.Proofs.Access.Entries
import Reflection.Proofs.Access.Walks
import Reflection.Proofs.Access.Reasons
import Reflection.Proofs.Calls.Binding
import Reflection.Database.Run
import Reflection.Proofs.Database.Index
import Reflection.Proofs.Database.Exactness
import Reflection.Proofs.Database.Filters
import Reflection.Proofs.Database.Undoing
import Reflection.Proofs.Database.Sharing
import Reflection.Proofs.Database.Homes
import Reflection.Proofs.Database.Attributes
import Reflection.Proofs.Database.Targets
import Reflection.Proofs.Text.Decimal
import Reflection.Proofs.Text.Numerals
import Reflection.Proofs.Text.Versions
import Reflection.Proofs.Config.Loading
import Reflection.Proofs.Config.Saving
import Reflection.Proofs.Values.Rounding
import Reflection.Proofs.Values.Meaning
import Reflection.Proofs.Values.Capabilities
import Reflection.Proofs.Values.Comparing
import Reflection.Proofs.Values.Parts
import Reflection.Proofs.Values.Sound
import Reflection.Session.Run
import Reflection.Proofs.Values.Reaching
import Reflection.Proofs.Values.Operations
import Reflection.Proofs.Values.Storing
import Reflection.Proofs.Values.Passing
import Reflection.Proofs.Values.Converting
import Reflection.Proofs.Calls.Atomic
import Reflection.Proofs.Values.Registering
import Reflection.Proofs.Values.Runs
import Reflection.Proofs.Values.Enumerations
import Reflection.Proofs.Values.EnumerationTexts
import Reflection.Proofs.Values.ConversionSites
import Reflection.Proofs.Values.IntegerConversions
import Reflection.Proofs.Storage.Coherent
import Reflection.Proofs.Storage.Separation
import Reflection.Proofs.Storage.Agreement
import Reflection.Proofs.Storage.Steps
import Reflection.Proofs.Storage.Ownership
