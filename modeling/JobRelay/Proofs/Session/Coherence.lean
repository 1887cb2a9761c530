import JobRelay.Proofs.Session.Account

/-! # The coherence of the book

Jobs have ids of their own and owners among the users, nothing is recorded for a job that is not
there, and every job has an account in order. Operations on a payment reach one job only:
`Coherent.of_confined` asks for the account of that job and keeps all others.
-/

namespace JobRelay

namespace PaymentStage

/-- The stage that a payment record tells. -/
def ofWord : Option String → PaymentStage
  | some "pending" => pending
  | some "reneged" => reneged
  | some "paid" => paid
  | some "eventual" => eventual
  | _ => unrecorded

private theorem ofWord_word (stage : PaymentStage) : ofWord stage.word = stage := by
  cases stage <;> rfl

theorem ofWord_eq_reneged_iff {word : Option String} :
    ofWord word = reneged ↔ word = some "reneged" := by
  unfold ofWord
  split <;> simp_all

end PaymentStage

namespace Book

def entriesOf (book : Book) (jobId : String) : List LedgerRow :=
  book.ledger.filter (·.jobId == jobId)

def stageOf (book : Book) (jobId : String) : PaymentStage :=
  .ofWord ((book.transactionRow? jobId).map (·.status))

/-- A job has its account in order. -/
def Accounted (book : Book) (row : JobRow) : Prop :=
  Account row (book.transactionRow? row.id) (book.entriesOf row.id) (book.stageOf row.id)

/-- What the tables of the book promise each other. -/
structure Coherent (book : Book) : Prop where
  usersKeyed : (book.users.map (·.id)).Nodup
  jobsKeyed : book.JobsKeyed
  owners : ∀ row ∈ book.jobs, ∃ user ∈ book.users, user.id = row.userId
  strangers : ∀ id, (∀ row ∈ book.jobs, row.id ≠ id) →
    book.transactionRow? id = none ∧ book.entriesOf id = []
  accounts : ∀ row ∈ book.jobs, book.Accounted row

variable {book after : Book}

private theorem accounted_of_account {row : JobRow} {record : Option TransactionRow}
    {entries : List LedgerRow} {stage : PaymentStage} (account : Account row record entries stage)
    (recorded : after.transactionRow? row.id = record) (booked : after.entriesOf row.id = entries) :
    after.stageOf row.id = stage ∧ after.Accounted row := by
  have told : after.stageOf row.id = stage := by
    rw [stageOf, recorded, account.word, PaymentStage.ofWord_word]
  refine ⟨told, ?_⟩
  rw [Accounted, told, recorded, booked]
  exact account

theorem coherent_empty : Coherent .empty where
  usersKeyed := .nil
  jobsKeyed := .nil
  owners _ member := by cases member
  strangers _ _ := ⟨rfl, rfl⟩
  accounts _ member := by cases member

/-- The tables promise each other nothing about alerts. -/
theorem Coherent.withAlerts (coherent : book.Coherent) (alerts : List AlertRow) (lastAlert : Nat) :
    Coherent { book with alerts, lastAlert } :=
  ⟨coherent.usersKeyed, coherent.jobsKeyed, coherent.owners, coherent.strangers,
    coherent.accounts⟩

/-! ## Changes of one job -/

/-- A change that reaches the payment of one job and leaves all other jobs alone. -/
structure Confined (id : String) (update : JobRow → JobRow) (book after : Book) : Prop where
  users : SameUsers book after
  jobs : after.jobs = updateJobs book.jobs id update
  idKept : ∀ row, (update row).id = row.id
  ownerKept : ∀ row, (update row).userId = row.userId
  records : ∀ other, other ≠ id → after.transactionRow? other = book.transactionRow? other
  entries : ∀ other, other ≠ id → after.entriesOf other = book.entriesOf other

theorem mem_updateJobs (keyed : book.JobsKeyed) {row : JobRow} (member : row ∈ book.jobs)
    {update : JobRow → JobRow} {other : JobRow}
    (present : other ∈ updateJobs book.jobs row.id update) :
    other = update row ∨ other ∈ book.jobs ∧ other.id ≠ row.id := by
  obtain ⟨old, here, rfl⟩ := List.mem_map.mp present
  by_cases same : old.id = row.id
  · obtain rfl := keyed.eq_of_id here member same
    simp
  · rw [if_neg same]
    exact .inr ⟨here, same⟩

private theorem SameUsers.mem (same : SameUsers book after) {id : String}
    (present : ∃ user ∈ book.users, user.id = id) : ∃ user ∈ after.users, user.id = id := by
  rw [← List.mem_map] at present ⊢
  rwa [same.ids_eq]

/-- Nothing about a job that a confined change does not reach is different afterwards. -/
theorem Confined.stageOf_eq {id : String} {update : JobRow → JobRow}
    (confined : Confined id update book after) {other : String} (apart : other ≠ id) :
    after.stageOf other = book.stageOf other := by
  rw [stageOf, stageOf, confined.records other apart]

/-- The book stays coherent when the job that was reached has its account in order. -/
private theorem Coherent.of_confined (coherent : book.Coherent) {row : JobRow}
    (member : row ∈ book.jobs) {update : JobRow → JobRow}
    (confined : Confined row.id update book after) (account : after.Accounted (update row)) :
    after.Coherent where
  usersKeyed := by
    rw [confined.users.ids_eq]
    exact coherent.usersKeyed
  jobsKeyed := by
    rw [JobsKeyed, confined.jobs, map_updateJobs _ _ _ confined.idKept]
    exact coherent.jobsKeyed
  owners := by
    intro other present
    rw [confined.jobs] at present
    rcases mem_updateJobs coherent.jobsKeyed member present with rfl | ⟨old, _⟩
    · rw [confined.ownerKept]
      exact confined.users.mem (coherent.owners row member)
    · exact confined.users.mem (coherent.owners other old)
  strangers := by
    intro id absent
    have ids : after.jobs.map (·.id) = book.jobs.map (·.id) := by
      rw [confined.jobs, map_updateJobs _ _ _ confined.idKept]
    have before : ∀ other ∈ book.jobs, other.id ≠ id := by
      have unlisted : id ∉ after.jobs.map (·.id) := by simpa using absent
      rw [ids] at unlisted
      simpa using unlisted
    have apart : id ≠ row.id := (before row member).symm
    rw [confined.records id apart, confined.entries id apart]
    exact coherent.strangers id before
  accounts := by
    intro other present
    rw [confined.jobs] at present
    rcases mem_updateJobs coherent.jobsKeyed member present with rfl | ⟨old, apart⟩
    · exact account
    · rw [Accounted, confined.records _ apart, confined.entries _ apart, confined.stageOf_eq apart]
      exact coherent.accounts other old

/-- A change of a job that keeps its terms and writes nothing about its payment. -/
private theorem Coherent.of_sameTerms (coherent : book.Coherent) {row : JobRow}
    (member : row ∈ book.jobs) {update : JobRow → JobRow}
    (confined : Confined row.id update book after) (terms : SameTerms row (update row))
    (stands : ∃ status : JobStatus, (update row).status = status.name ∧
      (book.stageOf row.id).allows status)
    (record : after.transactionRow? row.id = book.transactionRow? row.id)
    (entries : after.entriesOf row.id = book.entriesOf row.id) : after.Coherent := by
  apply coherent.of_confined member confined
  have account := (coherent.accounts row member).of_sameTerms terms stands
  have told : after.stageOf row.id = book.stageOf row.id := by rw [stageOf, stageOf, record]
  rw [Accounted, terms.id, record, entries, told]
  exact account

/-! ## Quiet steps -/

theorem confined_moved {row : JobRow} {current next : JobStatus} {actor : Actor}
    {reason : Option String} {note : JobRow → JobRow}
    (law : LawfulMove current next actor reason note) (now : Instant) :
    Confined row.id (fun row => note (movedRow next now row)) book
      (book.moved row.id current next actor reason now note) where
  users := rfl
  jobs := rfl
  idKept other := (law.sameTerms now other).id
  ownerKept other := (law.sameTerms now other).userId
  records _ _ := rfl
  entries _ _ := rfl

theorem confined_coded (id : String) (code : Option String) :
    Confined id (codedRow code) book (book.updateJob id (codedRow code)) where
  users := rfl
  jobs := rfl
  idKept _ := rfl
  ownerKept _ := rfl
  records _ _ := rfl
  entries _ _ := rfl

/-- Changing the row of no job changes nothing. -/
theorem updateJob_of_absent {id : String} (absent : ∀ row ∈ book.jobs, row.id ≠ id)
    (update : JobRow → JobRow) : book.updateJob id update = book := by
  have same : updateJobs book.jobs id update = book.jobs :=
    (List.map_congr_left fun row member => if_neg (absent row member)).trans (List.map_id' _)
  rw [updateJob, same]

theorem Coherent.quiet (coherent : book.Coherent) (step : Quiet book after) : after.Coherent := by
  have kept := step.jobsKeyed coherent.jobsKeyed
  cases step with
  | userAdded row fresh _ =>
    refine ⟨?_, coherent.jobsKeyed, ?_, coherent.strangers, coherent.accounts⟩
    · have unused : row.id ∉ book.users.map (·.id) := by simpa using fresh
      simpa using List.Nodup.concat unused coherent.usersKeyed
    · intro job present
      obtain ⟨user, here, owns⟩ := coherent.owners job present
      exact ⟨user, List.mem_append_left _ here, owns⟩
  | jobAdded id request now fresh owner =>
    refine ⟨coherent.usersKeyed, kept, ?_, ?_, ?_⟩
    · intro row present
      rcases List.mem_append.mp present with old | new
      · exact coherent.owners row old
      · obtain rfl := List.mem_singleton.mp new
        exact owner
    · intro other absent
      exact coherent.strangers other fun row old => absent row (List.mem_append_left _ old)
    · intro row present
      rcases List.mem_append.mp present with old | new
      · exact coherent.accounts row old
      · obtain rfl := List.mem_singleton.mp new
        obtain ⟨unrecorded, unbooked⟩ := coherent.strangers id fresh
        exact (accounted_of_account (Account.newJob id request now) unrecorded unbooked).2
  | @moved row member current next _ _ note stands law now =>
    have account := coherent.accounts row member
    obtain ⟨status, stood, allowed⟩ := account.stands
    rw [stands] at stood
    obtain rfl := JobStatus.name_inj stood
    exact coherent.of_sameTerms member (confined_moved law now) (law.sameTerms now row)
      ⟨next, law.status_note now row, PaymentStage.allows_of_move law allowed⟩ rfl rfl
  | coded id code =>
    by_cases known : ∃ row ∈ book.jobs, row.id = id
    · obtain ⟨row, member, rfl⟩ := known
      exact coherent.of_sameTerms member (confined_coded row.id code) (sameTerms_codedRow code row)
        (coherent.accounts row member).stands rfl rfl
    · rw [updateJob_of_absent (by simpa using known)]
      exact coherent

/-! ## Changes about money -/

/-- The payment record of a job after a record was written. -/
theorem transactionRow?_of_recordRows (book after : Book) {fresh : TransactionRow}
    {change : TransactionRow → TransactionRow}
    (recorded : after.transactions = recordRows book.transactions fresh change)
    (keeps : ∀ row, (change row).jobId = row.jobId) (id : String) :
    after.transactionRow? id =
      if id = fresh.jobId then some ((book.transactionRow? id).elim fresh change)
      else book.transactionRow? id := by
  rw [transactionRow?, transactionRow?, recorded]
  exact find?_putUnder (fun row here => (keeps row).trans here) id

/-- Entries for a job add nothing for other jobs. -/
private theorem entriesOf_of_append (book after : Book) {id : String} {added : List LedgerRow}
    (booked : after.ledger = book.ledger ++ added) (about : ∀ entry ∈ added, entry.jobId = id)
    (other : String) :
    after.entriesOf other = book.entriesOf other ++ if other = id then added else [] := by
  rw [entriesOf, booked, List.filter_append, entriesOf]
  congr 1
  by_cases here : other = id
  · rw [if_pos here, List.filter_eq_self]
    intro entry member
    simp [about entry member, here]
  · rw [if_neg here, List.filter_eq_nil_iff]
    intro entry member
    simp [about entry member, Ne.symm here]

variable {row : JobRow} {job : Job}

theorem transactionRow?_invoiced (book : Book) (shows : Shows row job) (amountSats : Int)
    (invoiceId : String) (now : Instant) (other : String) :
    (book.invoiced job amountSats invoiceId now).transactionRow? other =
      if other = row.id then
        some ((book.transactionRow? other).elim (openTransaction job amountSats invoiceId now)
          fun found => { found with amountSats := some amountSats, invoiceId := some invoiceId })
      else book.transactionRow? other := by
  rw [← shows.id]
  exact transactionRow?_of_recordRows book (book.invoiced job amountSats invoiceId now) rfl
    (fun _ => rfl) other

theorem confined_invoiced (shows : Shows row job) (amountSats : Int) (invoiceId : String)
    (now : Instant) :
    Confined row.id (pricedRow amountSats invoiceId) book
      (book.invoiced job amountSats invoiceId now) where
  users := sameUsers_of_debts job.userId (Amount.add · amountSats) rfl
  jobs := by rw [invoiced, shows.id]
  idKept _ := rfl
  ownerKept _ := rfl
  records other apart := by
    rw [transactionRow?_invoiced book shows, if_neg apart]
  entries _ _ := rfl

/-- An invoice opens the payment of its job. -/
theorem Coherent.invoiced (coherent : book.Coherent) (member : row ∈ book.jobs)
    (shows : Shows row job) (uninvoiced : job.invoiceId = none)
    (underWay : job.status.isTerminal = false) {amountSats : Int} (positive : 0 < amountSats)
    (invoiceId : String) (now : Instant) :
    book.stageOf row.id = .unrecorded ∧
      (book.invoiced job amountSats invoiceId now).stageOf row.id = .pending ∧
      (book.invoiced job amountSats invoiceId now).Coherent := by
  obtain ⟨before, account⟩ :=
    (coherent.accounts row member).invoiced shows uninvoiced underWay positive invoiceId now
  have recorded := transactionRow?_invoiced book shows amountSats invoiceId now row.id
  rw [if_pos rfl] at recorded
  obtain ⟨told, accounted⟩ :=
    accounted_of_account account recorded rfl
  exact ⟨before, told, coherent.of_confined member (confined_invoiced shows ..) accounted⟩

theorem transactionRow?_settled (book : Book) (shows : Shows row job) (next : JobStatus)
    (paymentStatus : String) (now : Instant) (other : String) :
    (book.settled job next paymentStatus now).transactionRow? other =
      if other = row.id then
        some ((book.transactionRow? other).elim (transactionOf job paymentStatus (some now.stored) now)
          fun found => { found with status := paymentStatus, paidAt := some now.stored })
      else book.transactionRow? other := by
  rw [← shows.id]
  exact transactionRow?_of_recordRows book (book.settled job next paymentStatus now) rfl
    (fun _ => rfl) other

/-- A payment is booked for its job only. -/
theorem entriesOf_settled (book : Book) (shows : Shows row job) (next : JobStatus)
    (paymentStatus : String) (now : Instant) (other : String) :
    (book.settled job next paymentStatus now).entriesOf other =
      book.entriesOf other ++ if other = row.id then
        (positivePrice job).toList.map fun amountSats =>
          book.revenueRow job amountSats paymentStatus now
      else [] := by
  apply entriesOf_of_append book _ rfl
  intro entry member
  obtain ⟨amountSats, _, rfl⟩ := List.mem_map.mp member
  exact shows.id

theorem confined_settled (shows : Shows row job) (next : JobStatus) (paymentStatus : String)
    (now : Instant) :
    Confined row.id (movedRow next now) book (book.settled job next paymentStatus now) where
  users := by
    cases price : positivePrice job with
    | none => simp [SameUsers, settled, price]
    | some amountSats =>
      exact sameUsers_of_debts job.userId (Amount.lower · amountSats) (by simp [settled, price])
  jobs := by rw [settled, shows.id]
  idKept _ := rfl
  ownerKept _ := rfl
  records other apart := by
    rw [transactionRow?_settled book shows, if_neg apart]
  entries other apart := by
    rw [entriesOf_settled book shows, if_neg apart, List.append_nil]

/-- A payment closes the account of its job. -/
theorem Coherent.settled (coherent : book.Coherent) (member : row ∈ book.jobs)
    (shows : Shows row job) {next : JobStatus} {paymentStatus : String}
    (target : settlementTarget job = .ok (next, paymentStatus)) (now : Instant) :
    (book.stageOf row.id).isSettled = false ∧
      (book.settled job next paymentStatus now).stageOf row.id = (book.stageOf row.id).settle ∧
      (book.settled job next paymentStatus now).Coherent ∧
      some paymentStatus = (book.stageOf row.id).settle.word := by
  obtain ⟨before, word, account⟩ := (coherent.accounts row member).settled shows target
    (transactionOf job paymentStatus (some now.stored) now) (some now.stored) now
    (fun amountSats => book.revenueRow job amountSats paymentStatus now) fun amountSats => by
      simp [LedgerRow.posting, revenueRow, shows.id, shows.serviceId, shows.action]
  have recorded := transactionRow?_settled book shows next paymentStatus now row.id
  rw [if_pos rfl] at recorded
  have booked := entriesOf_settled book shows next paymentStatus now row.id
  rw [if_pos rfl] at booked
  obtain ⟨told, accounted⟩ :=
    accounted_of_account account recorded booked
  exact ⟨before, told, coherent.of_confined member (confined_settled shows ..) accounted, word⟩

theorem transactionRow?_writtenOff (book : Book) (shows : Shows row job) (now : Instant)
    (other : String) :
    (book.writtenOff job now).transactionRow? other =
      if other = row.id then
        some ((book.transactionRow? other).elim (transactionOf job "reneged" none now)
          fun found => { found with status := "reneged" })
      else book.transactionRow? other := by
  rw [← shows.id]
  exact transactionRow?_of_recordRows book (book.writtenOff job now) rfl (fun _ => rfl) other

theorem confined_writtenOff (shows : Shows row job) (now : Instant) :
    Confined row.id (movedRow .completedReneged now) book (book.writtenOff job now) where
  users := rfl
  jobs := by rw [writtenOff, shows.id]
  idKept _ := rfl
  ownerKept _ := rfl
  records other apart := by
    rw [transactionRow?_writtenOff book shows, if_neg apart]
  entries _ _ := rfl

/-- A write-off leaves the account of its job open for a late payment. -/
theorem Coherent.writtenOff (coherent : book.Coherent) (member : row ∈ book.jobs)
    (shows : Shows row job) (edge : job.status.canMoveTo .completedReneged) (now : Instant) :
    (book.stageOf row.id = .unrecorded ∨ book.stageOf row.id = .pending) ∧
      (book.writtenOff job now).stageOf row.id = .reneged ∧
      (book.writtenOff job now).Coherent := by
  obtain ⟨before, account⟩ := (coherent.accounts row member).writtenOff shows edge now
  have recorded := transactionRow?_writtenOff book shows now row.id
  rw [if_pos rfl] at recorded
  obtain ⟨told, accounted⟩ :=
    accounted_of_account account recorded rfl
  exact ⟨before, told, coherent.of_confined member (confined_writtenOff shows ..) accounted⟩

end Book

end JobRelay
