import TraitBuilder.Expansion
import TraitBuilder.Proofs.Builder.Copying
import TraitBuilder.Proofs.Builder.DefaultCalls
import TraitBuilder.Proofs.Builder.MergePolicy
import TraitBuilder.Proofs.Builder.Readers
import TraitBuilder.Proofs.Builder.Resetting
import TraitBuilder.Proofs.Builder.Tracking
import TraitBuilder.Proofs.Code.BuilderCalls
import TraitBuilder.Proofs.Code.Order
import TraitBuilder.Proofs.Code.Switches
import TraitBuilder.Proofs.Comparison.Agreement
import TraitBuilder.Proofs.Comparison.Slices
import TraitBuilder.Proofs.Display.Text
import TraitBuilder.Proofs.Loading.Getters
import TraitBuilder.Proofs.Loading.Reemission
import TraitBuilder.Proofs.Loading.WrittenDefaults
import TraitBuilder.Proofs.Naming.BuilderItems
import TraitBuilder.Proofs.Naming.CollisionReports
import TraitBuilder.Proofs.Naming.Conditional
import TraitBuilder.Proofs.Naming.Conventional
import TraitBuilder.Proofs.Naming.Trackable
import TraitBuilder.Proofs.Naming.Variants
import TraitBuilder.Proofs.Renaming.Expansion
import TraitBuilder.Proofs.Serialization.MissingFields
import TraitBuilder.Proofs.Shape.Classification
import TraitBuilder.Proofs.Shape.Refusal
import TraitBuilder.Proofs.Shape.Storage
import TraitBuilder.Token.Chunk
import TraitBuilder.Token.Lexer
import TraitBuilder.Token.Text
