import TemplateExpr.Describe
import TemplateExpr.Error.Json
import TemplateExpr.Proofs.Arithmetic.Division
import TemplateExpr.Proofs.Arithmetic.Power
import TemplateExpr.Proofs.Arithmetic.Sum
import TemplateExpr.Proofs.Binding.Failed
import TemplateExpr.Proofs.Chains
import TemplateExpr.Proofs.Constructors
import TemplateExpr.Proofs.Cycle
import TemplateExpr.Proofs.Equality.Congruence
import TemplateExpr.Proofs.Equality.Order
import TemplateExpr.Proofs.Frame.Growth
import TemplateExpr.Proofs.Joins
import TemplateExpr.Proofs.Json.Seeding
import TemplateExpr.Proofs.Logic
import TemplateExpr.Proofs.Marks.Fresh
import TemplateExpr.Proofs.Marks.Irrelevance
import TemplateExpr.Proofs.Marks.Path
import TemplateExpr.Proofs.Numerals
import TemplateExpr.Proofs.Percent.Alike
import TemplateExpr.Proofs.Pool.Kept
import TemplateExpr.Proofs.Range.Index
import TemplateExpr.Proofs.Search.Agreement
import TemplateExpr.Proofs.Spelling
import TemplateExpr.Proofs.Truncate.Leeway
import TemplateExpr.Proofs.Widths.Kept
import TemplateExpr.Proofs.Words
import TemplateExpr.Script
import TemplateExpr.Settings
