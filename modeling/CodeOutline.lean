import CodeOutline.Outline.Reading
import CodeOutline.Options.Reading
import CodeOutline.Main
import CodeOutline.Proofs.Rule
import CodeOutline.Proofs.Depth
import CodeOutline.Proofs.KeywordVisibility
import CodeOutline.Proofs.PatternFailure
import CodeOutline.Proofs.Containment
import CodeOutline.Proofs.Forest
import CodeOutline.Proofs.Provenance
import CodeOutline.Proofs.DepthLimit
import CodeOutline.Proofs.LabelGrammar
import CodeOutline.Proofs.JsonGrammar
import CodeOutline.Proofs.JsonPrinting
import CodeOutline.Proofs.ReportRoundTrip
import CodeOutline.Proofs.PatternSkeleton
import CodeOutline.Proofs.ParameterVisibility
import CodeOutline.Proofs.ExportTransparency
import CodeOutline.Proofs.AllOrNothing
import CodeOutline.Proofs.RemainingDepth
import CodeOutline.Proofs.BindingKeys
import CodeOutline.Proofs.KindAndLocation
import CodeOutline.Proofs.SpecPath
import CodeOutline.Proofs.Signatures
import CodeOutline.Proofs.NestingBound
import CodeOutline.Proofs.UnnamedFields
import CodeOutline.Proofs.Relocation
import CodeOutline.Proofs.TextListing
import CodeOutline.Proofs.OptionSettings
