import Daybook.Proofs.Document.Arrival
import Daybook.Proofs.Document.DueDate
import Daybook.Proofs.Document.PatchObject
import Daybook.Proofs.Document.PatchTexts
import Daybook.Proofs.Document.Shares
import Daybook.Proofs.Document.Totals
import Daybook.Proofs.Fixture.Families
import Daybook.Proofs.Grouping.ChildLists
import Daybook.Proofs.Grouping.Consumption
import Daybook.Proofs.Grouping.GroupedRows
import Daybook.Proofs.Listing.Admission
import Daybook.Proofs.Listing.Alike
import Daybook.Proofs.Listing.Faults
import Daybook.Proofs.Listing.PairBoundary
import Daybook.Proofs.Listing.Pattern
import Daybook.Proofs.Listing.Reachable
import Daybook.Proofs.Resource.Text
import Daybook.Proofs.Resource.Ties
import Daybook.Proofs.Service.AllOrNothing
import Daybook.Proofs.Service.Encoding
import Daybook.Proofs.Settings
