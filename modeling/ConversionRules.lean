import ConversionRules.Cache.Container
import ConversionRules.Document.Meaning
import ConversionRules.Proofs.Cache.RoundTrip
import ConversionRules.Proofs.Converter.Validity
import ConversionRules.Proofs.Document.Parsing
import ConversionRules.Proofs.Cache.Acceptance
import ConversionRules.Proofs.Converter.FirstMatch
import ConversionRules.Proofs.Call.Expressions
import ConversionRules.Proofs.Converter.Scopes
import ConversionRules.Proofs.Expression.Names
import ConversionRules.Proofs.Call.Names
import ConversionRules.Proofs.Converter.TypeNames
import ConversionRules.Proofs.Document.Concatenation
import ConversionRules.Proofs.Cache.Inspection
import ConversionRules.Proofs.Converter.Failure
import ConversionRules.Proofs.Number.Reading
import ConversionRules.Proofs.Template.Placeholders
import ConversionRules.Proofs.Template.Segments
import ConversionRules.Proofs.Number.Printing
import ConversionRules.Proofs.Template.Integers
import ConversionRules.Proofs.Text.Parts
import ConversionRules.Proofs.Expression.Editing
import ConversionRules.Proofs.Expression.Indices
import ConversionRules.Proofs.Template.Grouping
import ConversionRules.Proofs.Number.Ordering
import ConversionRules.Proofs.Value.Ordering
import ConversionRules.Proofs.Expression.Selection
import ConversionRules.Proofs.Expression.Membership
import ConversionRules.Proofs.Value.Reading
import ConversionRules.Proofs.Expression.Integers
import ConversionRules.Proofs.Expression.Flags
import ConversionRules.Proofs.Expression.MemberNames
import ConversionRules.Proofs.Call.EnumTypes
import ConversionRules.Proofs.Expression.Draws
import ConversionRules.Proofs.Document.Clauses
import ConversionRules.Proofs.Converter.Conditions
import ConversionRules.Proofs.Number.ReadingBack
import ConversionRules.Proofs.Expression.NumberTexts
import ConversionRules.Proofs.Expression.Comparisons
import ConversionRules.Proofs.Call.Unknown
import ConversionRules.Proofs.Document.NumberLiterals
import ConversionRules.Proofs.Expression.Operators
import ConversionRules.Proofs.Text.Lines
import ConversionRules.Proofs.Value.Texts
import ConversionRules.Proofs.Template.Faults
import ConversionRules.Proofs.Expression.Messages
import ConversionRules.Proofs.Cache.Progress
import ConversionRules.Proofs.Document.Progress
