import FileQuery.Listing.Basic
import FileQuery.Listing.WorkerPool

/-!
# Listing with several workers

The entries of a directory are inspected in order by one worker, or by a pool of workers that hand
their records back in batches. The number of workers that is asked for is brought into a range, and
there are never more workers than entries.
-/

namespace FileQuery

open WorkerPool (Schedule)

def defaultJobs : Nat := 1

def maxJobs : Nat := 64

def effectiveJobs (requested : Nat) : Nat :=
  max defaultJobs (min requested maxJobs)

/-- The number of records that a worker collects before it hands them back. -/
def batchSize : Nat := 64

/-- The results for all items: in order with one worker or with fewer than two items, else by a
pool of workers. -/
def inspectItems {ι α ε : Type} (inspect : ι → Except ε α) (schedule : Schedule) (jobs : Nat)
    (items : List ι) : Except ε (List α) :=
  if jobs ≤ 1 ∨ items.length < 2 then
    inspectInOrder inspect items
  else
    WorkerPool.inspectAll inspect batchSize schedule (min jobs items.length) items

/-- The items that are inspected on the way to the results, in the order in which that happens. -/
def inspectedItems {ι α ε : Type} (inspect : ι → Except ε α) (schedule : Schedule) (jobs : Nat)
    (items : List ι) : List ι :=
  if jobs ≤ 1 ∨ items.length < 2 then
    inspectedInOrder inspect items
  else
    WorkerPool.inspectedAll inspect batchSize schedule (min jobs items.length) items

def listDirectory (files : FileSystem) (accounts : Accounts) (schedule : Schedule) (jobs : Nat)
    (directory : RawPath) : Except ListingError (List FileRecord) := do
  let entries ← readEntries files directory
  inspectItems (inspect files accounts directory) schedule jobs entries

/-- What listing a directory asks about owners and groups. -/
def questionsIn (files : FileSystem) (accounts : Accounts) (schedule : Schedule) (jobs : Nat)
    (directory : RawPath) : List Accounts.Question :=
  match readEntries files directory with
  | .error _ => []
  | .ok entries =>
      (inspectedItems (inspect files accounts directory) schedule jobs entries).flatMap
        (questionsAbout files directory)

end FileQuery
