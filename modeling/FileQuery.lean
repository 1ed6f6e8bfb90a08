import FileQuery.Main
import FileQuery.Output.JsonReader
import FileQuery.Proofs.Query.RoundTrip
import FileQuery.Proofs.Run.EntriesKept
import FileQuery.Proofs.Run.Independence
import FileQuery.Proofs.Filter.DateOperand
import FileQuery.Proofs.Calendar.Order
import FileQuery.Proofs.Filter.Comparison
import FileQuery.Proofs.Filter.DateRange
import FileQuery.Proofs.Filter.Failure
import FileQuery.Proofs.Query.Cursor
import FileQuery.Proofs.Run.PathSet
import FileQuery.Proofs.Output.TableLines
import FileQuery.Proofs.Output.Formats
import FileQuery.Proofs.Run.Drives
import FileQuery.Proofs.Filter.Like
import FileQuery.Proofs.Filter.DateForms
import FileQuery.Proofs.CommandLine.Ending
import FileQuery.Proofs.Filter.Conjunction
import FileQuery.Proofs.Filter.Integers
import FileQuery.Proofs.Output.TableColumns
import FileQuery.Proofs.Query.Errors
import FileQuery.Proofs.Filter.Coherence
import FileQuery.Proofs.Listing.HomePaths
import FileQuery.Proofs.Run.MissingNames
import FileQuery.Proofs.Tree.WellFormed
import FileQuery.Proofs.Tree.Links
import FileQuery.Proofs.Text.AfterLast
import FileQuery.Proofs.Listing.InOrder
import FileQuery.Proofs.Output.PrintCycles
import FileQuery.Proofs.Listing.Protocol
import FileQuery.Proofs.Filter.LikeRounds
import FileQuery.Proofs.Query.Progress
