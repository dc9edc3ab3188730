import TextTemplate.Cache.Session
import TextTemplate.Engine.Session
import TextTemplate.Template.Part
import TextTemplate.Value.Arithmetic
import TextTemplate.Value.Sequence
import TextTemplate.Proofs.Engine.CacheTransparency
import TextTemplate.Proofs.Template.Closing
import TextTemplate.Proofs.Template.Decomposition
import TextTemplate.Proofs.Text.Occurrence
import TextTemplate.Proofs.Template.Strays
import TextTemplate.Proofs.Text.Lines
import TextTemplate.Proofs.Template.Reading
import TextTemplate.Proofs.Template.Canonical
import TextTemplate.Proofs.Cache.HistoryLaw
import TextTemplate.Proofs.Template.Outputs
import TextTemplate.Proofs.Distinct
import TextTemplate.Proofs.Template.Dependence
import TextTemplate.Proofs.Template.OnePass
import TextTemplate.Proofs.Engine.AcceptedSettings
import TextTemplate.Proofs.Template.Seam
import TextTemplate.Proofs.Engine.Concatenation
import TextTemplate.Proofs.Engine.FollowsSettings
import TextTemplate.Proofs.Engine.FailedRequests
import TextTemplate.Proofs.Codec.SingleByte
import TextTemplate.Proofs.Codec.Utf16
import TextTemplate.Proofs.Codec.Encoding
import TextTemplate.Proofs.Source.Opening
import TextTemplate.Proofs.Source.FileText
import TextTemplate.Proofs.Value.PlainData
import TextTemplate.Proofs.Engine.FileFailures
import TextTemplate.Proofs.Engine.UnderRoot
import TextTemplate.Proofs.Value.Segments
import TextTemplate.Proofs.Template.Warnings
import TextTemplate.Proofs.Text.Trimming
import TextTemplate.Proofs.Template.Respelling
import TextTemplate.Proofs.Number.Zero
import TextTemplate.Proofs.Value.Shown
import TextTemplate.Proofs.Value.Emptiness
import TextTemplate.Proofs.Value.Searching
import TextTemplate.Proofs.Cache.Tally
import TextTemplate.Proofs.Number.LeadingInteger
import TextTemplate.Proofs.Number.Factored
import TextTemplate.Proofs.Value.Equality
import TextTemplate.Proofs.Value.Distinct
