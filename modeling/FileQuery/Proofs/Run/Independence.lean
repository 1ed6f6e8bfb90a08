import FileQuery.Proofs.Listing.Refinement
import FileQuery.Proofs.Run.Answers
import FileQuery.Proofs.Tree.Reordered

/-!
# Runs and the order of listing

A directory delivers its entries in no certain order, several workers inspect them in any
interleaving, and the first failure depends on both. What a run answers does not, but for the
choice among failures of one stage and among different records with one path: every possible
outcome agrees with that of one worker that takes the entries as the directory holds them.
-/

namespace FileQuery

/-- Errors of the same stage. -/
inductive QueryError.SameStage : QueryError → QueryError → Prop where
  | parse (cause cause' : ParseError) : SameStage (.parse cause) (.parse cause')
  | noPaths : SameStage .noPaths .noPaths
  | resolve (raw raw' : String) (cause cause' : ListingError) :
      SameStage (.resolve raw cause) (.resolve raw' cause')
  | list (cause cause' : ListingError) : SameStage (.list cause) (.list cause')
  | filter (cause cause' : EvalError) : SameStage (.filter cause) (.filter cause')

theorem QueryError.SameStage.symm {left right : QueryError} (same : left.SameStage right) :
    right.SameStage left := by
  cases same <;> constructor

theorem QueryError.SameStage.trans {left middle right : QueryError}
    (first : left.SameStage middle) (second : middle.SameStage right) : left.SameStage right := by
  cases first <;> cases second <;> constructor

/-- The entry of one of the paths of a query has the record. -/
def Host.Lists (host : Host) (home : Option String) (query : Query) (record : FileRecord) : Prop :=
  ∃ raw ∈ query.paths, ∃ path, resolvePath host.files home raw = .ok path ∧
    ∃ records, host.listInOrder path = .ok records ∧ record ∈ records

/-- Two outcomes of a query that differ at most in the choice among failures of one stage and among
different records with one path, of which `listed` are those of the entries of a query. -/
inductive Agree (listed : Query → FileRecord → Prop) :
    Except QueryError QueryAnswer → Except QueryError QueryAnswer → Prop where
  | errors {error error' : QueryError} (same : error.SameStage error') :
      Agree listed (.error error) (.error error')
  | answers {answer answer' : QueryAnswer} (query : answer.query = answer'.query)
      (scanned : answer.scanned = answer'.scanned)
      (paths : ∀ path, path ∈ answer.results.paths ↔ path ∈ answer'.results.paths)
      (records : ∀ path,
        (∀ record record', listed answer.query record → listed answer.query record' →
          record.path = path → record'.path = path → record = record') →
        answer.results.get? path = answer'.results.get? path) :
      Agree listed (.ok answer) (.ok answer')

theorem Agree.symm {listed : Query → FileRecord → Prop}
    {left right : Except QueryError QueryAnswer} (agree : Agree listed left right) :
    Agree listed right left := by
  cases agree with
  | errors same => exact .errors same.symm
  | answers query scanned paths records =>
      refine .answers query.symm scanned.symm (fun path => (paths path).symm) ?_
      intro path single
      rw [← query] at single
      exact (records path single).symm

theorem Agree.trans {listed : Query → FileRecord → Prop}
    {left middle right : Except QueryError QueryAnswer} (first : Agree listed left middle)
    (second : Agree listed middle right) : Agree listed left right := by
  cases first with
  | errors same =>
      cases second with
      | errors same' => exact .errors (same.trans same')
  | answers query scanned paths records =>
      cases second with
      | answers query' scanned' paths' records' =>
          refine .answers (query.trans query') (scanned.trans scanned')
            (fun path => (paths path).trans (paths' path)) ?_
          intro path single
          have single' := single
          rw [query] at single'
          exact (records path single).trans (records' path single')

/-- What listing a path may give with a number of workers: the directory delivers its entries in
some order, and the workers act in some order. -/
inductive Host.MayList (host : Host) (jobs : Nat) (path : String) :
    Except ListingError (List FileRecord) → Prop where
  | unread {cause : ListingError}
      (fails : readEntries host.files (RawPath.ofString path) = .error cause) :
      MayList host jobs path (.error cause)
  | inspected {entries delivered : List DirectoryEntry} (schedule : WorkerPool.Schedule)
      (entriesRead : readEntries host.files (RawPath.ofString path) = .ok entries)
      (reordered : delivered.Perm entries) :
      MayList host jobs path
        (inspectItems (inspect host.files host.accounts (RawPath.ofString path)) schedule jobs
          delivered)

/-- What a run may answer with a number of workers, when every listing has an order of its own.
The durations that it reports are not looked at. -/
def Host.MayAnswer (host : Host) (jobs : Nat) (home : Option String) (text : String)
    (outcome : Except QueryError QueryAnswer) : Prop :=
  ∃ elapsed, Answers { host with elapsed } (home.or host.home)
    (host.MayList (effectiveJobs jobs)) text outcome

/-- Hosts with the same tree but for the order of entries in its directories, and with the same
names of owners, time zone and home directory. -/
structure Host.Alike (host host' : Host) : Prop where
  files : host.files.Reordered host'.files
  accounts_eq : host.accounts = host'.accounts
  zone_eq : host.zone = host'.zone
  home_eq : host.home = host'.home

theorem Host.Alike.refl (host : Host) : host.Alike host :=
  ⟨.refl host.files, rfl, rfl, rfl⟩

section Listing

variable {host : Host} {jobs : Nat} {path : String}

theorem listInOrder_eq_ok_iff {records : List FileRecord} :
    host.listInOrder path = .ok records ↔
      ∃ entries, readEntries host.files (RawPath.ofString path) = .ok entries ∧
        entries.map (inspect host.files host.accounts (RawPath.ofString path)) =
          records.map .ok := by
  simp only [Host.listInOrder, Outcome.bind_eq_ok_iff, inspectInOrder_eq_ok_iff]

/-- In whatever order a listing succeeds, it has the records of the listing in order. -/
theorem Host.MayList.exists_perm {records : List FileRecord}
    (may : host.MayList jobs path (.ok records)) :
    ∃ inOrder, host.listInOrder path = .ok inOrder ∧ records.Perm inOrder := by
  generalize outcome_eq : Except.ok records = outcome at may
  cases may with
  | unread fails => cases outcome_eq
  | @inspected entries delivered schedule entriesRead reordered =>
      have refines := refinesInOrder_inspectItems
        (inspect host.files host.accounts (RawPath.ofString path)) schedule jobs delivered
      have succeed := refines.succeeds_iff.1 ⟨records, outcome_eq.symm⟩
      rcases refines.results_perm records outcome_eq.symm with ⟨results, inspected, perm⟩
      rcases exists_inspectInOrder_eq_ok_iff.2 fun entry member =>
        succeed entry (reordered.mem_iff.2 member) with ⟨inOrder, inspectedInOrder⟩
      rw [inspectInOrder_eq_ok_iff] at inspected inspectedInOrder
      refine ⟨inOrder, listInOrder_eq_ok_iff.2 ⟨entries, entriesRead, inspectedInOrder⟩, ?_⟩
      have outcomes := reordered.map
        (inspect host.files host.accounts (RawPath.ofString path))
      rw [inspected, inspectedInOrder] at outcomes
      exact perm.trans ((List.map_perm_map_iff fun _ _ => Except.ok.inj).1 outcomes)

/-- If a listing fails in one order, the listing in order fails too. -/
theorem Host.MayList.exists_error {cause : ListingError}
    (may : host.MayList jobs path (.error cause)) :
    ∃ cause', host.listInOrder path = .error cause' := by
  cases listed : host.listInOrder path with
  | error cause' => exact ⟨cause', rfl⟩
  | ok inOrder =>
      rcases listInOrder_eq_ok_iff.1 listed with ⟨entries', entriesRead', inspectedInOrder⟩
      have succeed := exists_inspectInOrder_eq_ok_iff.1
        ⟨inOrder, inspectInOrder_eq_ok_iff.2 inspectedInOrder⟩
      generalize outcome_eq : Except.error cause = outcome at may
      cases may with
      | unread fails =>
          rw [entriesRead'] at fails
          cases fails
      | @inspected entries delivered schedule entriesRead reordered =>
          rw [entriesRead'] at entriesRead
          cases entriesRead
          have refines := refinesInOrder_inspectItems
            (inspect host.files host.accounts (RawPath.ofString path)) schedule jobs delivered
          rcases refines.failure_of_item cause outcome_eq.symm with ⟨entry, member, fails⟩
          rcases succeed entry (reordered.mem_iff.1 member) with ⟨record, succeeds⟩
          rw [fails] at succeeds
          cases succeeds

theorem mayList_listPath (host : Host) (jobs : Nat) (path : String) :
    host.MayList jobs path (host.listPath jobs path) := by
  rw [Host.listPath, listDirectory]
  cases entriesRead : readEntries host.files (RawPath.ofString path) with
  | error cause => exact .unread entriesRead
  | ok entries => exact .inspected host.schedule entriesRead (.refl entries)

/-- Listings of an alike host are possible outcomes: it delivers the entries in another order. -/
theorem mayList_of_alike {host' : Host} (alike : host.Alike host')
    {outcome : Except ListingError (List FileRecord)} (may : host'.MayList jobs path outcome) :
    host.MayList jobs path outcome := by
  have entries := readEntries_cases_of_reordered alike.files (RawPath.ofString path)
  cases may with
  | unread fails =>
      rcases entries with ⟨cause, old, new⟩ | ⟨entries, entries', old, new, -⟩
      · rw [new] at fails
        cases fails
        exact .unread old
      · rw [new] at fails
        cases fails
  | inspected schedule entriesRead reordered =>
      rcases entries with ⟨cause, old, new⟩ | ⟨entries, entries', old, new, perm⟩
      · rw [new] at entriesRead
        cases entriesRead
      · rw [new] at entriesRead
        cases entriesRead
        rw [← inspect_eq_of_reordered alike.files, ← alike.accounts_eq]
        exact .inspected schedule old (reordered.trans perm)

end Listing

section Run

variable {host : Host} {jobs : Nat} {home : Option String} {text : String}

/-- The listings of paths in order, when each of them succeeds in some order. -/
theorem exists_listings_in_order {paths : List String} {listings : List (List FileRecord)}
    (listed : List.Forall₂ (fun path records => host.MayList jobs path (.ok records)) paths
      listings) :
    ∃ inOrder, List.Forall₂ (fun path records => host.listInOrder path = .ok records) paths
        inOrder ∧ listings.flatten.Perm inOrder.flatten := by
  induction listed with
  | nil => exact ⟨[], .nil, .refl _⟩
  | cons may _ ih =>
      rcases may.exists_perm with ⟨records, listedInOrder, perm⟩
      rcases ih with ⟨rest, listedRest, permRest⟩
      exact ⟨records :: rest, .cons listedInOrder listedRest, perm.append permRest⟩

theorem exists_firstFailure_in_order {paths : List String} {path : String} {cause : ListingError}
    (first : FirstFailure (host.MayList jobs) paths path cause) :
    ∃ cause', FirstFailure (fun path outcome => host.listInOrder path = outcome) paths path
      cause' := by
  rcases first with ⟨before, rest, split, succeed, fails⟩
  rcases fails.exists_error with ⟨cause', failsInOrder⟩
  refine ⟨cause', before, rest, split, ?_, failsInOrder⟩
  intro earlier member
  rcases succeed earlier member with ⟨records, succeeds⟩
  rcases succeeds.exists_perm with ⟨inOrder, listed, -⟩
  exact ⟨inOrder, listed⟩

theorem lists_of_mem_flatten {query : Query} {paths : List String}
    {listings : List (List FileRecord)} {record : FileRecord}
    (resolved : List.Forall₂ (fun raw path => resolvePath host.files home raw = .ok path)
      query.paths paths)
    (listed : List.Forall₂ (fun path records => host.listInOrder path = .ok records) paths
      listings)
    (member : record ∈ listings.flatten) : host.Lists home query record := by
  rcases List.mem_flatten.1 member with ⟨records, listing, inListing⟩
  rcases exists_mem_of_forall₂ listed listing with ⟨path, pathMem, pathListed⟩
  rcases exists_mem_of_forall₂ resolved pathMem with ⟨raw, rawMem, rawResolved⟩
  exact ⟨raw, rawMem, path, rawResolved, records, pathListed, inListing⟩

/-- Records in another order have result sets with the same paths, and with the same record at
every path with only one record. -/
theorem results_agree_of_perm {zone : Calendar.Zone} {conditions : List Condition}
    {records records' : List FileRecord} {results results' : ResultSet}
    (perm : records.Perm records') (holds : results.HoldsLast zone conditions records)
    (holds' : results'.HoldsLast zone conditions records') :
    (∀ path, path ∈ results.paths ↔ path ∈ results'.paths) ∧
      ∀ path, (∀ record ∈ records', ∀ record' ∈ records', record.path = path →
          record'.path = path → record = record') →
        results.get? path = results'.get? path := by
  have paths : ∀ path, path ∈ results.paths ↔ path ∈ results'.paths := by
    intro path
    simp only [holds.mem_paths_iff, holds'.mem_paths_iff, perm.mem_iff]
  refine ⟨paths, ?_⟩
  intro path single
  by_cases member : path ∈ results.paths
  · rcases PathMap.mem_paths_iff.1 member with ⟨record, found⟩
    rcases PathMap.mem_paths_iff.1 ((paths path).1 member) with ⟨record', found'⟩
    have last := ResultSet.mem_of_lastPassing_eq_some ((holds.get?_eq path).symm.trans found)
    have last' := ResultSet.mem_of_lastPassing_eq_some ((holds'.get?_eq path).symm.trans found')
    rw [found, found',
      single record (perm.mem_iff.1 last.1) record' last'.1 last.2.1 last'.2.1]
  · have absent : ∀ map : ResultSet, path ∉ map.paths → map.get? path = none := by
      intro map notMember
      rw [Option.eq_none_iff_forall_ne_some]
      intro record found
      exact notMember (PathMap.mem_paths_iff.2 ⟨record, found⟩)
    rw [absent results member, absent results' (mt (paths path).2 member)]

theorem Host.MayAnswer.agree_in_order {outcome : Except QueryError QueryAnswer}
    (may : host.MayAnswer jobs home text outcome) :
    Agree (host.Lists (home.or host.home)) outcome (runQuery host 1 home text).outcome := by
  rcases may with ⟨elapsed, answers⟩
  have inOrder : ∀ {outcome'}, Answers host (home.or host.home)
      (fun path outcome => host.listInOrder path = outcome) text outcome' →
        (runQuery host 1 home text).outcome = outcome' :=
    (answers_in_order_iff le_rfl).1
  cases answers with
  | unparsed fails =>
      rw [inOrder (.unparsed fails)]
      exact .errors (.parse _ _)
  | unresolved parsed first =>
      rw [inOrder (.unresolved parsed first)]
      exact .errors (.resolve _ _ _ _)
  | unlisted parsed resolved first =>
      rcases exists_firstFailure_in_order first with ⟨cause', firstInOrder⟩
      rw [inOrder (.unlisted parsed resolved firstInOrder)]
      exact .errors (.list _ _)
  | @unfiltered query paths listings record cause parsed resolved listed first =>
      rcases exists_listings_in_order listed with ⟨listings', listedInOrder, perm⟩
      have failing : ∃ record cause, FirstFailure
          (fun record outcome => record.passes host.zone query.conditions = outcome)
          listings'.flatten record cause :=
        exists_firstFailure_iff.2
          ⟨record, perm.mem_iff.1 first.mem.1, cause, first.mem.2⟩
      rcases failing with ⟨record', cause', firstInOrder⟩
      rw [inOrder
        (.unfiltered parsed resolved listedInOrder firstInOrder)]
      exact .errors (.filter _ _)
  | @answered query paths listings results parsed resolved listed decided holds =>
      rcases exists_listings_in_order listed with ⟨listings', listedInOrder, perm⟩
      have decidedInOrder : ∀ record ∈ listings'.flatten, ∃ passes,
          record.passes host.zone query.conditions = .ok passes :=
        fun record member => decided record (perm.mem_iff.2 member)
      rcases ResultSet.exists_ofRecords_eq_ok_iff.2 decidedInOrder with ⟨results', filtered⟩
      have holdsInOrder := ResultSet.holdsLast_of_ofRecords_eq_ok filtered
      rcases results_agree_of_perm perm holds holdsInOrder with ⟨paths, records⟩
      rw [inOrder
        (.answered parsed resolved listedInOrder decidedInOrder holdsInOrder)]
      refine .answers rfl perm.length_eq paths ?_
      intro path single
      apply records
      intro record member record' member'
      exact single record record' (lists_of_mem_flatten resolved listedInOrder member)
        (lists_of_mem_flatten resolved listedInOrder member')

/-- An answer depends on a host only through the paths that it resolves, its zone and the durations
of a run. -/
theorem Answers.of_alike {host' : Host} (alike : host.Alike host')
    {lists : String → Except ListingError (List FileRecord) → Prop}
    {outcome : Except QueryError QueryAnswer}
    (answers : Answers host' home lists text outcome) :
    Answers { host with elapsed := host'.elapsed } home lists text outcome := by
  have resolve : ∀ raw, resolvePath host.files home raw = resolvePath host'.files home raw :=
    resolvePath_eq_of_reordered alike.files home
  have zone := alike.zone_eq
  cases answers with
  | unparsed fails => exact .unparsed fails
  | unresolved parsed first =>
      exact .unresolved parsed (first.mono fun raw _ => (resolve raw).trans)
  | unlisted parsed resolved first =>
      exact .unlisted parsed (resolved.imp fun raw _ => (resolve raw).trans) first
  | unfiltered parsed resolved listed first =>
      rw [← zone] at first
      exact .unfiltered parsed (resolved.imp fun raw _ => (resolve raw).trans) listed first
  | answered parsed resolved listed decided holds =>
      rw [← zone] at decided holds
      exact .answered parsed (resolved.imp fun raw _ => (resolve raw).trans) listed decided holds

/-- What a run of an alike host answers is a possible outcome. -/
theorem mayAnswer_outcome_runQuery {host' : Host} (alike : host.Alike host') (jobs : Nat)
    (home : Option String) (text : String) :
    host.MayAnswer jobs home text (runQuery host' jobs home text).outcome := by
  have answers := (answers_outcome_runQuery host' jobs home text).mono fun path outcome listed =>
    listed ▸ mayList_of_alike alike (mayList_listPath host' (effectiveJobs jobs) path)
  rw [← alike.home_eq] at answers
  exact ⟨host'.elapsed, answers.of_alike alike⟩

/-- Whatever the number of workers, the order in which directories deliver their entries and the
interleaving of the workers, the outcomes of a run agree; and the runs of hosts that are alike are
among the possible ones. -/
theorem possible_outcomes_agree (host : Host) (home : Option String) (text : String) :
    (∀ host' jobs, host.Alike host' →
      host.MayAnswer jobs home text (runQuery host' jobs home text).outcome) ∧
    ∀ jobs jobs' outcome outcome', host.MayAnswer jobs home text outcome →
      host.MayAnswer jobs' home text outcome' →
      Agree (host.Lists (home.or host.home)) outcome outcome' := by
  constructor
  · intro host' jobs alike
    exact mayAnswer_outcome_runQuery alike jobs home text
  · intro jobs jobs' outcome outcome' may may'
    exact may.agree_in_order.trans may'.agree_in_order.symm

end Run

/-- A directory with two files, read in either order, by one worker or by two. -/
theorem agree_two_orders :
    let first : EntryName := ⟨[0x61], by decide⟩
    let second : EntryName := ⟨[0xff], by decide⟩
    let host := Host.holding [first, second]
    let host' := { Host.holding [second, first] with schedule := fun round => 3 * round + 1 }
    host.Alike host' ∧
      (∃ answer, (runQuery host 1 none "SELECT * FROM d").outcome = .ok answer) ∧
      Agree (host.Lists none) (runQuery host 1 none "SELECT * FROM d").outcome
        (runQuery host' 2 none "SELECT * FROM d").outcome := by
  intro first second host host'
  have alike : host.Alike host' := by
    refine ⟨⟨rfl, rfl, ?_⟩, rfl, rfl, rfl⟩
    rintro (_ | _ | _ | id)
    · exact .some ⟨.refl _, rfl⟩
    · exact .some ⟨Content.reordered_of_perm 0 (by decide) (.swap _ _ _), rfl⟩
    · exact .some ⟨.refl _, rfl⟩
    · exact .none
  have known : ∀ name ∈ [first, second], host.files.stat
      ((RawPath.ofString "d").join name.bytes) = .ok (.plain .file) := by
    simp only [List.forall_mem_cons, List.not_mem_nil, false_implies, implies_true, and_true]
    constructor <;> cbv
  rcases exists_answer_holding 1 known with ⟨answer, answered, -⟩
  rcases possible_outcomes_agree host none "SELECT * FROM d" with ⟨possible, agree⟩
  exact ⟨alike, ⟨answer, answered⟩,
    agree 1 2 _ _ (possible host 1 (.refl host)) (possible host' 2 alike)⟩

end FileQuery
