import TextTemplate.Describe
import TextTemplate.Files.Publish
import TextTemplate.Proofs.Edits.Batches
import TextTemplate.Proofs.Edits.OnePass
import TextTemplate.Proofs.Expressions.Faults
import TextTemplate.Proofs.Expressions.Foreign
import TextTemplate.Proofs.Expressions.Paths
import TextTemplate.Proofs.Expressions.RoundTrip
import TextTemplate.Proofs.Files.Containment
import TextTemplate.Proofs.Files.Mirror
import TextTemplate.Proofs.Filters.Chunks
import TextTemplate.Proofs.Filters.Links
import TextTemplate.Proofs.Filters.Markup
import TextTemplate.Proofs.Filters.Shortening
import TextTemplate.Proofs.Inheritance.Ancestry
import TextTemplate.Proofs.Inheritance.Blocks
import TextTemplate.Proofs.Inheritance.Compiled
import TextTemplate.Proofs.Inheritance.KeptLines
import TextTemplate.Proofs.Inheritance.Lineage
import TextTemplate.Proofs.Inheritance.Merging
import TextTemplate.Proofs.Json.Decoders
import TextTemplate.Proofs.Json.RoundTrip
import TextTemplate.Proofs.Numbers.Arithmetic
import TextTemplate.Proofs.Numbers.Ordering
import TextTemplate.Proofs.Numbers.Progressions
import TextTemplate.Proofs.Rendering.Assignments
import TextTemplate.Proofs.Rendering.Checked
import TextTemplate.Proofs.Rendering.Conditions
import TextTemplate.Proofs.Rendering.Depth
import TextTemplate.Proofs.Rendering.Origin
import TextTemplate.Proofs.Rendering.Restoring
import TextTemplate.Proofs.Rendering.Staging
import TextTemplate.Proofs.Rendering.Updates
import TextTemplate.Proofs.Rendering.Variables
import TextTemplate.Proofs.Tags.Faults
import TextTemplate.Proofs.Tags.Grammar
import TextTemplate.Proofs.Tags.Malformed
import TextTemplate.Proofs.Tags.Matching
import TextTemplate.Proofs.Tags.Replaced
import TextTemplate.Proofs.Values.Coherence
import TextTemplate.Proofs.Values.Sorting
import TextTemplate.Template
