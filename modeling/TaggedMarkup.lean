import TaggedMarkup.Main
import TaggedMarkup.Value.Equality
import TaggedMarkup.Proofs.Caching.Freshness
import TaggedMarkup.Proofs.Caching.Exactness
import TaggedMarkup.Proofs.Caching.Accounting
import TaggedMarkup.Proofs.Rendering.Attributes
import TaggedMarkup.Proofs.Rendering.StaticMarkup
import TaggedMarkup.Proofs.Rendering.TreeMode
import TaggedMarkup.Proofs.Reading.Nesting
import TaggedMarkup.Proofs.Reading.Printing
import TaggedMarkup.Proofs.Reading.Grammar
import TaggedMarkup.Proofs.Reading.Shape
import TaggedMarkup.Proofs.Reading.Slots
import TaggedMarkup.Proofs.Reading.Numbering
import TaggedMarkup.Proofs.Rendering.Inline
import TaggedMarkup.Proofs.Rendering.Steps
import TaggedMarkup.Proofs.Rendering.Unfolding
import TaggedMarkup.Proofs.Rendering.Following
import TaggedMarkup.Proofs.Rendering.Scoping
import TaggedMarkup.Proofs.Rendering.Document
import TaggedMarkup.Proofs.Rendering.WellFormed
import TaggedMarkup.Proofs.Supplied
import TaggedMarkup.Proofs.Rendering.Lookups
import TaggedMarkup.Proofs.Reading.Concatenation
import TaggedMarkup.Proofs.Rendering.Contents
import TaggedMarkup.Proofs.Rendering.DepthLimit
import TaggedMarkup.Proofs.Rendering.Grouping
import TaggedMarkup.Proofs.Rendering.Custom
import TaggedMarkup.Proofs.Rendering.AttributeText
import TaggedMarkup.Proofs.Reading.Metadata
import TaggedMarkup.Proofs.Reading.Reports
import TaggedMarkup.Proofs.Reading.Escaping
import TaggedMarkup.Proofs.Rendering.Selections
import TaggedMarkup.Proofs.Rendering.LineFeeds
import TaggedMarkup.Proofs.Registration
import TaggedMarkup.Proofs.Reading.Spelling
import TaggedMarkup.Proofs.TemplateFiles
import TaggedMarkup.Proofs.Rendering.InputDefaults
import TaggedMarkup.Proofs.Reading.Condensing
import TaggedMarkup.Proofs.Equality
import TaggedMarkup.Proofs.Numerals
