import CoursePlan.Main
import CoursePlan.Plan.Json
import CoursePlan.Proofs.Requisite.Catalog
import CoursePlan.Proofs.Requisite.Locality
import CoursePlan.Proofs.Requisite.RoundTrip
import CoursePlan.Proofs.Review.Order
import CoursePlan.Proofs.Plan.Editing
import CoursePlan.Proofs.PlanFile.Rewording
import CoursePlan.Proofs.Review.Alike
import CoursePlan.Proofs.PlanFile.Reloading
import CoursePlan.Proofs.Toml.Reading
import CoursePlan.Proofs.Settings
import CoursePlan.Proofs.Threshold
import CoursePlan.Proofs.Toml.Range
import CoursePlan.Proofs.Settings.Precedence
import CoursePlan.Proofs.Command.History
import CoursePlan.Proofs.Batch
import CoursePlan.Proofs.Command.Validating
import CoursePlan.Proofs.Plan.Uuid
import CoursePlan.Proofs.PlanFile.RoundTrip
import CoursePlan.Proofs.CourseCode.Places
import CoursePlan.Proofs.CourseCode.Blanks
import CoursePlan.Proofs.Review.Overload
import CoursePlan.Proofs.Requisite.Marker
import CoursePlan.Proofs.Requisite.Remainder
import CoursePlan.Proofs.Review.Postponing
import CoursePlan.Proofs.Review.DisplayOrder
import CoursePlan.Proofs.Review.Corequisites
import CoursePlan.Proofs.Level.Grammar
import CoursePlan.Proofs.Text.Case
import CoursePlan.Proofs.CourseCode.Case
import CoursePlan.Proofs.CourseCode.Spelling
import CoursePlan.Proofs.CourseCode.Agreement
import CoursePlan.Proofs.Requisite.Case
import CoursePlan.Proofs.Review.Printing
