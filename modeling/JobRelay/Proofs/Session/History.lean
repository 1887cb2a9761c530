import JobRelay.Proofs.Session.Readback
import Mathlib.Algebra.Group.Nat.Defs

/-! # The history of a session

The status of a job and its history are written by different statements on different paths. They
agree all the same: after every session the entries of a job are the log of its way, the outreaches
among them are as many as its row counts, and further operations only make the log longer.
-/

namespace JobRelay

/-! ## Counting outreaches -/

/-- The stored count of outreaches. One too many for its field stays where it is. -/
def storedCount (n : Nat) : Int :=
  (min n (2 ^ 63) : Nat)

private theorem storedCount_of_lt {n : Nat} (fits : n < 2 ^ 63) : storedCount n = n := by
  rw [storedCount, Nat.min_eq_left (Nat.le_of_lt fits)]

private theorem storedCount_of_le {n : Nat} (many : 2 ^ 63 ≤ n) :
    storedCount n = 9223372036854775808 := by
  rw [storedCount, Nat.min_eq_right many]
  rfl

private theorem add_storedCount {n step : Nat} (single : step ≤ 1) :
    Amount.add (storedCount n) step = storedCount (n + step) := by
  by_cases fits : n + step < 2 ^ 63
  · rw [storedCount_of_lt fits, storedCount_of_lt (Nat.lt_of_le_of_lt (Nat.le_add_right ..) fits)]
    apply Amount.add_eq <;> rw [Text.fitsInt64_iff, Text.minInt64, Text.maxInt64] <;> omega
  · rw [storedCount_of_le (Nat.not_lt.mp fits)]
    have stays : Amount.add 9223372036854775808 0 = 9223372036854775808 := by decide +kernel
    have sticks : Amount.add 9223372036854775808 1 = 9223372036854775808 := by decide +kernel
    have fills : Amount.add 9223372036854775807 1 = 9223372036854775808 := by decide +kernel
    by_cases beyond : 2 ^ 63 ≤ n
    · rw [storedCount_of_le beyond]
      obtain rfl | rfl : step = 0 ∨ step = 1 := by omega
      · exact stays
      · exact sticks
    · obtain rfl : step = 1 := by omega
      obtain rfl : n = 9223372036854775807 := by omega
      exact fills

private theorem eq_of_fits_storedCount {n : Nat} (fits : Text.fitsInt64 (storedCount n)) :
    storedCount n = n := by
  rw [Text.fitsInt64_iff] at fits
  unfold storedCount Text.maxInt64 at *
  omega

namespace Book

variable {book after : Book}

/-- The entries of a job, the first one first. -/
def movesOf (book : Book) (jobId : String) : List HistoryRow :=
  book.history.filter (·.jobId == jobId)

/-- The history tells every job's way, and nothing of jobs that are not there. -/
structure Recorded (book : Book) : Prop where
  ordered : book.history.Pairwise (·.id < ·.id)
  numbered : ∀ entry ∈ book.history, entry.id ≤ book.lastHistory
  owned : ∀ entry ∈ book.history, ∃ row ∈ book.jobs, row.id = entry.jobId
  logged : ∀ row ∈ book.jobs, Logged (book.movesOf row.id) row
  counted : ∀ row ∈ book.jobs,
    row.outreachCount = storedCount ((book.movesOf row.id).countP HistoryRow.isOutreach)

theorem recorded_empty : Recorded .empty where
  ordered := .nil
  numbered _ member := by cases member
  owned _ member := by cases member
  logged _ member := by cases member
  counted _ member := by cases member

theorem movesOf_of_append {entry : HistoryRow} (history : after.history = book.history ++ [entry])
    (id : String) :
    after.movesOf id = book.movesOf id ++ if entry.jobId = id then [entry] else [] := by
  rw [movesOf, history, List.filter_append, movesOf]
  by_cases here : entry.jobId = id <;> simp [here]

/-- One entry more keeps the numbers of the history in order. -/
private theorem Recorded.ordered_append (recorded : book.Recorded) {entry : HistoryRow}
    (number : entry.id = book.lastHistory + 1) :
    (book.history ++ [entry]).Pairwise (·.id < ·.id) ∧
      ∀ other ∈ book.history ++ [entry], other.id ≤ book.lastHistory + 1 := by
  constructor
  · refine List.pairwise_append.mpr ⟨recorded.ordered, List.pairwise_singleton _ _, ?_⟩
    intro other member last new
    obtain rfl := List.mem_singleton.mp new
    have least := recorded.numbered other member
    omega
  · intro other member
    rcases List.mem_append.mp member with old | new
    · have least := recorded.numbered other old
      omega
    · obtain rfl := List.mem_singleton.mp new
      omega

/-! ## A job moves -/

/-- One job moves: its row is updated, and the move is appended to the history. -/
structure Moves (row : JobRow) (update : JobRow → JobRow) (entry : HistoryRow)
    (book after : Book) : Prop where
  history : after.history = book.history ++ [entry]
  lastHistory : after.lastHistory = book.lastHistory + 1
  jobs : after.jobs = updateJobs book.jobs row.id update
  idKept : ∀ row, (update row).id = row.id
  number : entry.id = book.lastHistory + 1
  jobId : entry.jobId = row.id
  lawful : ∃ actor current next, MayMove actor current next entry.reason ∧
    row.status = current.name ∧ entry.fromStatus = some current.name ∧
    entry.toStatus = next.name ∧ entry.actor = Named.name actor
  status : (update row).status = entry.toStatus
  since : (update row).statusUpdatedAt = entry.createdAt
  outreach : ∀ n, row.outreachCount = storedCount n →
    (update row).outreachCount = storedCount (n + if entry.isOutreach then 1 else 0)

variable {row : JobRow} {update : JobRow → JobRow} {entry : HistoryRow}

private theorem Logged.concat {entries : List HistoryRow} (logged : Logged entries row)
    (moves : Moves row update entry book after) : Logged (entries ++ [entry]) (update row) where
  opens := by
    obtain ⟨first, begins, opens⟩ := logged.opens
    exact ⟨first, by rw [List.head?_append, begins, Option.some_or], opens⟩
  follows := by
    obtain ⟨last, ends, status, _⟩ := logged.last
    obtain ⟨actor, current, next, may, stands, told, moved, by_⟩ := moves.lawful
    refine List.isChain_append.mpr ⟨logged.follows, List.isChain_singleton _, ?_⟩
    rintro _ final _ ⟨⟩
    cases ends.symm.trans final
    exact ⟨actor, current, next, may, status.trans stands, told, moved, by_⟩
  last := ⟨entry, List.getLast?_concat, moves.status.symm, moves.since.symm⟩

private theorem exists_id_of_updateJobs {id : String}
    (jobs : after.jobs = updateJobs book.jobs id update)
    (keeps : ∀ row, (update row).id = row.id) {other : String}
    (present : ∃ row ∈ book.jobs, row.id = other) : ∃ row ∈ after.jobs, row.id = other := by
  rw [← List.mem_map] at present ⊢
  rwa [jobs, map_updateJobs _ _ _ keeps]

theorem Moves.movesOf_eq (moves : Moves row update entry book after) (id : String) :
    after.movesOf id = book.movesOf id ++ if row.id = id then [entry] else [] := by
  rw [movesOf_of_append moves.history, moves.jobId]

private theorem Recorded.moves (recorded : book.Recorded) (keyed : book.JobsKeyed)
    (member : row ∈ book.jobs) (moves : Moves row update entry book after) : after.Recorded := by
  obtain ⟨ordered, numbered⟩ := recorded.ordered_append moves.number
  have rows : ∀ other ∈ after.jobs, other = update row ∨ other ∈ book.jobs ∧ other.id ≠ row.id := by
    intro other present
    rw [moves.jobs] at present
    exact mem_updateJobs keyed member present
  have here : after.movesOf (update row).id = book.movesOf row.id ++ [entry] := by
    rw [moves.movesOf_eq, moves.idKept, if_pos rfl]
  have apart {other : JobRow} (apart : other.id ≠ row.id) :
      after.movesOf other.id = book.movesOf other.id := by
    rw [moves.movesOf_eq, if_neg (Ne.symm apart), List.append_nil]
  refine ⟨?_, ?_, ?_, ?_, ?_⟩
  · rw [moves.history]
    exact ordered
  · rw [moves.history, moves.lastHistory]
    exact numbered
  · intro other present
    apply exists_id_of_updateJobs moves.jobs moves.idKept
    rw [moves.history] at present
    rcases List.mem_append.mp present with old | new
    · exact recorded.owned other old
    · obtain rfl := List.mem_singleton.mp new
      exact ⟨row, member, moves.jobId.symm⟩
  · intro other present
    rcases rows other present with rfl | ⟨old, elsewhere⟩
    · rw [here]
      exact Logged.concat (recorded.logged row member) moves
    · rw [apart elsewhere]
      exact recorded.logged other old
  · intro other present
    rcases rows other present with rfl | ⟨old, elsewhere⟩
    · rw [here, List.countP_append, moves.outreach _ (recorded.counted row member),
        List.countP_singleton]
    · rw [apart elsewhere]
      exact recorded.counted other old

/-! ## What changes write -/

/-- Only the report of an outreach counts one. -/
private theorem LawfulMove.outreachCount {current next : JobStatus} {actor : Actor}
    {reason : Option String} {note : JobRow → JobRow}
    (law : LawfulMove current next actor reason note) (now : Instant) (row : JobRow) {n : Nat}
    (counted : row.outreachCount = storedCount n) :
    (note (movedRow next now row)).outreachCount =
      storedCount (n + if actor = .agent ∧ next = .outreachSent then 1 else 0) := by
  cases law with
  | dispatched => exact counted
  | reported report =>
    have step : (if report.status = .outreachSent then 1 else 0) ≤ 1 := by split <;> decide
    simp only [reportedRow, movedRow, counted, true_and]
    rw [← add_storedCount step]
    split <;> rfl
  | forced => exact counted

private theorem isOutreach_iff {entry : HistoryRow} {actor : Actor} {next : JobStatus}
    (told : entry.actor = Named.name actor) (moved : entry.toStatus = next.name) :
    entry.isOutreach ↔ actor = .agent ∧ next = .outreachSent := by
  rw [HistoryRow.isOutreach, told, moved]
  cases actor <;> cases next <;> decide

theorem moves_moved {current next : JobStatus} {actor : Actor} {reason : Option String}
    {note : JobRow → JobRow} (stands : row.status = current.name)
    (law : LawfulMove current next actor reason note) (now : Instant) :
    ∃ entry, Moves row (fun row => note (movedRow next now row)) entry book
      (book.moved row.id current next actor reason now note) := by
  refine ⟨_, rfl, rfl, rfl, fun row => (law.sameTerms now row).id, rfl, rfl, ?_, ?_, ?_, ?_⟩
  · exact ⟨actor, current, next, law.mayMove, stands, rfl, rfl, rfl⟩
  · exact law.status_note now row
  · cases law <;> rfl
  · intro n counted
    rw [law.outreachCount now row counted]
    exact congrArg (fun step => storedCount (n + step))
      (if_congr (isOutreach_iff rfl rfl).symm rfl rfl)

private theorem mayMove_of_settlementTarget {job : Job} {next : JobStatus} {paymentStatus : String}
    (target : settlementTarget job = .ok (next, paymentStatus)) :
    MayMove .settlement job.status next none := by
  rcases settlementTarget_eq_ok target with ⟨reneged, rfl, _⟩ | ⟨_, underWay, rfl, _⟩
  · rw [reneged]
    exact .paidLate
  · exact .paid underWay

private theorem mayMove_of_canMoveTo_reneged {current : JobStatus}
    (edge : current.canMoveTo .completedReneged) :
    MayMove .settlement current .completedReneged none := by
  refine .writtenOff ?_
  revert edge
  cases current <;> decide

/-- A settlement or a write-off moves its job. -/
theorem moves_settlement {job : Job} (shows : Shows row job) {next : JobStatus}
    (may : MayMove .settlement job.status next none) (now : Instant)
    (history : after.history =
      (book.withMove job.id (some job.status) next .settlement none now).history)
    (lastHistory : after.lastHistory = book.lastHistory + 1)
    (jobs : after.jobs = updateJobs book.jobs job.id (movedRow next now)) :
    ∃ entry, Moves row (movedRow next now) entry book after := by
  refine ⟨_, history, lastHistory, ?_, fun _ => rfl, rfl, shows.id, ?_, rfl, rfl, ?_⟩
  · rw [jobs, shows.id]
  · exact ⟨.settlement, job.status, next, may, shows.status, rfl, rfl, rfl⟩
  · intro n counted
    rw [if_neg]
    · exact counted
    · rw [isOutreach_iff rfl rfl]
      exact fun outreach => nomatch outreach.1

theorem moves_settled {job : Job} (shows : Shows row job) {next : JobStatus}
    {paymentStatus : String} (target : settlementTarget job = .ok (next, paymentStatus))
    (now : Instant) :
    ∃ entry, Moves row (movedRow next now) entry book (book.settled job next paymentStatus now) :=
  moves_settlement shows (mayMove_of_settlementTarget target) now rfl rfl rfl

theorem moves_writtenOff {job : Job} (shows : Shows row job)
    (allowed : job.status.canMoveTo .completedReneged) (now : Instant) :
    ∃ entry, Moves row (movedRow .completedReneged now) entry book (book.writtenOff job now) :=
  moves_settlement shows (mayMove_of_canMoveTo_reneged allowed) now rfl rfl rfl

/-- Rows that keep their place and their status leave the history as true as it was. -/
private theorem Recorded.of_updateJobs (recorded : book.Recorded) {id : String}
    (jobs : after.jobs = updateJobs book.jobs id update)
    (idKept : ∀ row, (update row).id = row.id) (status : ∀ row, (update row).status = row.status)
    (since : ∀ row, (update row).statusUpdatedAt = row.statusUpdatedAt)
    (count : ∀ row, (update row).outreachCount = row.outreachCount)
    (history : after.history = book.history) (lastHistory : after.lastHistory = book.lastHistory) :
    after.Recorded := by
  have same (id : String) : after.movesOf id = book.movesOf id := by rw [movesOf, history, movesOf]
  have rows : ∀ row ∈ after.jobs, ∃ old ∈ book.jobs, row.id = old.id ∧ row.status = old.status ∧
      row.statusUpdatedAt = old.statusUpdatedAt ∧ row.outreachCount = old.outreachCount := by
    intro row present
    rw [jobs] at present
    obtain ⟨old, member, rfl⟩ := List.mem_map.mp present
    refine ⟨old, member, ?_⟩
    split
    · exact ⟨idKept old, status old, since old, count old⟩
    · exact ⟨rfl, rfl, rfl, rfl⟩
  refine ⟨?_, ?_, ?_, ?_, ?_⟩
  · rw [history]
    exact recorded.ordered
  · rw [history, lastHistory]
    exact recorded.numbered
  · rw [history]
    exact fun entry member => exists_id_of_updateJobs jobs idKept (recorded.owned entry member)
  · intro row present
    obtain ⟨old, member, id, status, since, _⟩ := rows row present
    obtain ⟨opens, follows, last, ends, moved, dated⟩ := recorded.logged old member
    rw [same, id]
    exact ⟨opens, follows, last, ends, moved.trans status.symm, dated.trans since.symm⟩
  · intro row present
    obtain ⟨old, member, id, _, _, count⟩ := rows row present
    rw [same, id, count]
    exact recorded.counted old member

/-- Nothing is recorded of a job that is not there. -/
theorem Recorded.movesOf_eq_nil (recorded : book.Recorded) {id : String}
    (fresh : ∀ row ∈ book.jobs, row.id ≠ id) : book.movesOf id = [] := by
  rw [movesOf, List.filter_eq_nil_iff]
  intro entry member same
  obtain ⟨row, listed, owns⟩ := recorded.owned entry member
  exact fresh row listed (owns.trans (by simpa using same))

/-- A new job comes with the first entry of its log. -/
private theorem Recorded.jobAdded (recorded : book.Recorded) {id : String} (request : NewJob)
    (now : Instant) (fresh : ∀ row ∈ book.jobs, row.id ≠ id) :
    (book.jobAdded id request now).Recorded := by
  obtain ⟨entry, history, number, jobId, opens, moved, dated⟩ : ∃ entry : HistoryRow,
      (book.jobAdded id request now).history = book.history ++ [entry] ∧
        entry.id = book.lastHistory + 1 ∧ entry.jobId = id ∧ entry.Opens ∧
        entry.toStatus = JobStatus.pending.name ∧ entry.createdAt = now.stored :=
    ⟨_, rfl, rfl, rfl, ⟨rfl, rfl, rfl⟩, rfl, rfl⟩
  obtain ⟨ordered, numbered⟩ := recorded.ordered_append number
  have new : (book.jobAdded id request now).movesOf (newJobRow id request now).id = [entry] := by
    rw [show (newJobRow id request now).id = id from rfl, movesOf_of_append history, if_pos jobId,
      recorded.movesOf_eq_nil fresh]
    rfl
  have apart {other : String} (apart : other ≠ id) :
      (book.jobAdded id request now).movesOf other = book.movesOf other := by
    rw [movesOf_of_append history, jobId, if_neg (Ne.symm apart), List.append_nil]
  refine ⟨?_, ?_, ?_, ?_, ?_⟩
  · rw [history]
    exact ordered
  · rw [history]
    exact numbered
  · intro other present
    rw [history] at present
    rcases List.mem_append.mp present with old | last
    · obtain ⟨row, listed, owns⟩ := recorded.owned other old
      exact ⟨row, List.mem_append_left _ listed, owns⟩
    · obtain rfl := List.mem_singleton.mp last
      exact ⟨newJobRow id request now, List.mem_append_right _ (List.mem_singleton_self _),
        jobId.symm⟩
  · intro row present
    rcases List.mem_append.mp present with old | last
    · rw [apart (fresh row old)]
      exact recorded.logged row old
    · obtain rfl := List.mem_singleton.mp last
      rw [new]
      exact ⟨⟨entry, rfl, opens⟩, List.isChain_singleton _, entry, rfl, moved, dated⟩
  · intro row present
    rcases List.mem_append.mp present with old | last
    · rw [apart (fresh row old)]
      exact recorded.counted row old
    · obtain rfl := List.mem_singleton.mp last
      have silent : entry.isOutreach = false := by
        rw [HistoryRow.isOutreach, opens.actor]
        rfl
      rw [new, List.countP_singleton, silent]
      rfl

theorem Recorded.quiet (recorded : book.Recorded) (keyed : book.JobsKeyed)
    (step : Quiet book after) : after.Recorded := by
  cases step with
  | userAdded =>
    exact ⟨recorded.ordered, recorded.numbered, recorded.owned, recorded.logged, recorded.counted⟩
  | jobAdded id request now fresh => exact recorded.jobAdded request now fresh
  | moved member stands law now =>
    obtain ⟨entry, moves⟩ := moves_moved stands law now
    exact recorded.moves keyed member moves
  | coded id code =>
    exact recorded.of_updateJobs rfl (fun _ => rfl) (fun _ => rfl) (fun _ => rfl) (fun _ => rfl)
      rfl rfl

private theorem Recorded.change (recorded : book.Recorded) (keyed : book.JobsKeyed) {deed : Deed}
    (change : Change book deed after) : after.Recorded := by
  cases change with
  | quiet steps =>
    induction steps using Relation.ReflTransGen.head_induction_on with
    | refl => exact recorded
    | head first _ ih => exact ih (recorded.quiet keyed first) (first.jobsKeyed keyed)
  | invoiced =>
    exact recorded.of_updateJobs rfl (fun _ => rfl) (fun _ => rfl) (fun _ => rfl) (fun _ => rfl)
      rfl rfl
  | settled member shows unpaid target answered =>
    obtain ⟨entry, moves⟩ := moves_settled shows target _
    exact recorded.moves keyed member moves
  | writtenOff member shows allowed now =>
    obtain ⟨entry, moves⟩ := moves_writtenOff shows allowed now
    exact recorded.moves keyed member moves

theorem Recorded.perform (recorded : book.Recorded) (keyed : book.JobsKeyed)
    (operation : Operation) : (book.perform operation).2.Recorded :=
  recorded.change keyed (perform_change keyed operation)

private theorem Recorded.session (recorded : book.Recorded) (intact : book.Intact)
    (operations : List Operation) : (book.session operations).2.Recorded := by
  induction operations generalizing book with
  | nil => exact recorded
  | cons operation rest ih =>
    exact ih (recorded.perform intact.jobsKeyed operation) (intact.perform operation)

/-! ## The history grows -/

/-- Nothing recorded and no job is ever taken out again. -/
structure Grows (book after : Book) : Prop where
  history : book.history <+: after.history
  jobs : ∀ id, (∃ row ∈ book.jobs, row.id = id) → ∃ row ∈ after.jobs, row.id = id

private theorem Grows.refl (book : Book) : Grows book book :=
    ⟨List.prefix_rfl, fun _ present => present⟩

private theorem Grows.trans {last : Book} (first : Grows book after) (second : Grows after last) :
    Grows book last :=
  ⟨first.history.trans second.history, fun id present => second.jobs id (first.jobs id present)⟩

private theorem grows_of_updateJobs {id : String}
    (jobs : after.jobs = updateJobs book.jobs id update)
    (keeps : ∀ row, (update row).id = row.id) (history : book.history <+: after.history) :
    Grows book after :=
  ⟨history, fun _ present => exists_id_of_updateJobs jobs keeps present⟩

theorem Quiet.grows (step : Quiet book after) : Grows book after := by
  cases step with
  | userAdded => exact ⟨List.prefix_rfl, fun _ present => present⟩
  | jobAdded id request now =>
    refine ⟨List.prefix_append _ _, ?_⟩
    rintro _ ⟨row, member, rfl⟩
    exact ⟨row, List.mem_append_left _ member, rfl⟩
  | moved _ _ law now =>
    exact grows_of_updateJobs rfl (fun row => (law.sameTerms now row).id) (List.prefix_append _ _)
  | coded => exact grows_of_updateJobs rfl (fun _ => rfl) List.prefix_rfl

theorem Change.grows {deed : Deed} (change : Change book deed after) : Grows book after := by
  cases change with
  | quiet steps =>
    induction steps with
    | refl => exact .refl book
    | tail _ last ih => exact ih.trans last.grows
  | invoiced => exact grows_of_updateJobs rfl (fun _ => rfl) List.prefix_rfl
  | settled => exact grows_of_updateJobs rfl (fun _ => rfl) (List.prefix_append _ _)
  | writtenOff => exact grows_of_updateJobs rfl (fun _ => rfl) (List.prefix_append _ _)

private theorem Intact.grows (intact : book.Intact) (operations : List Operation) :
    Grows book (book.session operations).2 := by
  induction operations generalizing book with
  | nil => exact .refl book
  | cons operation rest ih =>
    exact (perform_change intact.jobsKeyed operation).grows.trans (ih (intact.perform operation))

/-! ## The log of a session -/

/-- The history is a complete and lawful log: entries are numbered in order and belong to jobs, the
entries of a job lead from its creation to its present row, and settlement alone enters the
outcomes that carry money. -/
structure CompleteLog (book : Book) : Prop where
  ordered : book.history.Pairwise (·.id < ·.id)
  owned : ∀ entry ∈ book.history, ∃ row ∈ book.jobs, row.id = entry.jobId
  logged : ∀ row ∈ book.jobs, Logged (book.movesOf row.id) row
  counted : ∀ row ∈ book.jobs,
    row.outreachCount = (book.movesOf row.id).countP HistoryRow.isOutreach
  settlementOwned : ∀ entry ∈ book.history, ∀ status : JobStatus,
    entry.toStatus = status.name → status.isSettlementOwned →
      entry.actor = Named.name Actor.settlement

/-- What a later book makes of the jobs of an earlier one: the log only grows, a job that is over
stays over, and a job that has left the waiting status does not wait again. -/
structure Continues (book after : Book) : Prop where
  history : book.history <+: after.history
  jobs : ∀ row ∈ book.jobs, ∃ other ∈ after.jobs, other.id = row.id ∧
    ∃ current next : JobStatus, row.status = current.name ∧ other.status = next.name ∧
      (current.isTerminal → next.isTerminal) ∧ (current ≠ .pending → next ≠ .pending)

private theorem readCount_outreachCount {job : Job} (read : readJob row = .ok job) :
    Text.fitsInt64 row.outreachCount := by
  simp only [readJob, bind_eq_ok_iff] at read
  obtain ⟨_, _, _, _, count, number, _⟩ := read
  unfold readCount at number
  split at number
  · assumption
  · cases number

private theorem Recorded.completeLog (recorded : book.Recorded) (intact : book.Intact) :
    book.CompleteLog where
  ordered := recorded.ordered
  owned := recorded.owned
  logged := recorded.logged
  counted := by
    intro row member
    obtain ⟨job, read⟩ := intact.readable row member
    have fits := readCount_outreachCount read
    rw [recorded.counted row member] at fits ⊢
    exact eq_of_fits_storedCount fits
  settlementOwned := by
    intro entry member status moved owned
    obtain ⟨row, listed, owns⟩ := recorded.owned entry member
    have present : entry ∈ book.movesOf row.id :=
      List.mem_filter.mpr ⟨member, by simp [owns]⟩
    exact (recorded.logged row listed).actor_of_settlementOwned present moved owned

theorem Recorded.continues (recorded : book.Recorded) (later : after.Recorded)
    (intact : book.Intact) (grows : Grows book after) : Continues book after where
  history := grows.history
  jobs := by
    intro row member
    obtain ⟨other, listed, same⟩ := grows.jobs row.id ⟨row, member, rfl⟩
    obtain ⟨job, read⟩ := intact.readable row member
    have stands := (shows_of_readJob read).status
    obtain ⟨more, longer⟩ : book.movesOf row.id <+: after.movesOf other.id := by
      rw [same]
      exact grows.history.filter _
    have logged := later.logged other listed
    rw [← longer] at logged
    obtain ⟨next, moved, leads⟩ := (recorded.logged row member).leads logged stands
    exact ⟨other, listed, same, job.status, next, stands, moved, leads.isTerminal,
      leads.ne_pending⟩

/-- After every session the history is a complete and lawful log, and whatever is done further on
continues it. -/
theorem completeLog_session (operations further : List Operation) :
    (Book.empty.session operations).2.CompleteLog ∧
      Continues (Book.empty.session operations).2
        (Book.empty.session (operations ++ further)).2 := by
  have intact := intact_empty.session operations
  have recorded := recorded_empty.session intact_empty operations
  refine ⟨recorded.completeLog intact, ?_⟩
  rw [session_append]
  exact recorded.continues (recorded.session intact further) intact (intact.grows further)

end Book

end JobRelay
