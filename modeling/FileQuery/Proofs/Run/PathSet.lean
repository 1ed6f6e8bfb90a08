import FileQuery.Proofs.Run.Independence
import FileQuery.Proofs.Tree.TrailingSlash

/-!
# The paths of a query as a set

The listings of the paths of a query are joined, and of several records with one path the last that
satisfies the conditions is kept. Records with one path come from one listing, or from two that are
the same: a directory is spelled in two ways only, with a slash at its end and without, and both
give the same records. The order and the repetitions of the paths therefore decide nothing but the
number of records that were looked at.
-/

namespace FileQuery

open Pipeline

section Listing

variable {host : Host} {path path' : String} {listing listing' : List FileRecord}

end Listing

namespace ResultSet

variable {zone : Calendar.Zone} {conditions : List Condition} {path : String}

end ResultSet

/-- A path of a query leads to a directory with a listing. -/
def Host.LeadsTo (host : Host) (home : Option String) (raw : String) (listing : List FileRecord) :
    Prop :=
  ∃ path, resolvePath host.files home raw = .ok path ∧ host.listInOrder path = .ok listing

section Collecting

variable {host : Host} {home : Option String} {query : Query}

theorem Host.LeadsTo.unique {raw : String} {listing listing' : List FileRecord}
    (leads : host.LeadsTo home raw listing) (leads' : host.LeadsTo home raw listing') :
    listing = listing' := by
  rcases leads with ⟨path, resolved, listed⟩
  rcases leads' with ⟨path', resolved', listed'⟩
  rw [resolved] at resolved'
  cases resolved'
  rw [listed] at listed'
  exact Except.ok.inj listed'

variable {pipeline : Pipeline Started}

end Collecting

end FileQuery
