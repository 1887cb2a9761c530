import JobRelay.Proofs.Gateway.Orders
import JobRelay.Proofs.Money.Invoices
import JobRelay.Proofs.Money.StoredSums

/-! # What becomes of opened invoices

A completion first has its invoice opened and then puts it on the job. The checks that it makes
before are those of the job's own, but for one: a job that is waiting or over is refused its invoice
when the provider has already opened it. That invoice is carried by no job. Every other one is
carried by the job that it was opened for, as long as the provider does not repeat itself.
-/

namespace JobRelay

/-- Whether a job is neither waiting nor over. -/
def Job.isUnderWay (job : Job) : Bool :=
  job.status != .pending && !job.status.isTerminal

private theorem Job.isUnderWay_iff {job : Job} :
    job.isUnderWay ↔ job.status ≠ .pending ∧ job.status.isTerminal = false := by
  simp [isUnderWay]

/-- Duties put invoices on jobs with positive prices. -/
def Duty.Positive : Duty → Prop
  | operate operation => operation.Positive
  | check _ _ | acknowledge _ => True

instance : (duty : Duty) → Decidable duty.Positive
  | .operate operation => inferInstanceAs (Decidable operation.Positive)
  | .check _ _ => inferInstanceAs (Decidable True)
  | .acknowledge _ => inferInstanceAs (Decidable True)

private theorem Duty.Invoiceless.positive {duty : Duty} (invoiceless : duty.Invoiceless) :
    duty.Positive := by
  cases duty with
  | operate operation => cases operation <;> trivial
  | check => trivial
  | acknowledge => trivial

namespace Book

variable {book after : Book} {id invoiceId : String} {amountSats : Int} {now : Instant} {job : Job}

/-! ## Invoices that a job is refused -/

/-- A job that is there is missed by no look-up. -/
private theorem requireJob_eq_error {cause : TransitionError}
    (present : ∃ row ∈ book.jobs, row.id = id) (refused : book.requireJob id = .error cause) :
    ∃ fault, cause = .store fault := by
  simp only [requireJob, bind_eq_error_iff, liftMove_eq_error_iff] at refused
  rcases refused with ⟨fault, _, rfl⟩ | ⟨found, fetched, refused⟩
  · exact ⟨fault, rfl⟩
  cases found with
  | some job => cases refused
  | none =>
    rw [liftMove_eq_ok_iff, fetchJob, bind_eq_ok_iff] at fetched
    obtain ⟨_, _, read⟩ := fetched
    obtain ⟨row, member, same⟩ := present
    cases found : book.jobRow? id with
    | none =>
      have absent := List.find?_eq_none.mp found row member
      simp [same] at absent
    | some row =>
      rw [found, readOptional] at read
      cases result : readJob row <;> simp [result, Except.map] at read

/-- A job that is waiting or over is refused an invoice. -/
private theorem attachInvoice_of_barred (found : book.fetchJob id = .ok (some job))
    (barred : job.isUnderWay = false) (amountSats : Int) (invoiceId : String) (now : Instant) :
    book.attachInvoice id amountSats invoiceId now =
      .error (.notAllowed job.status.name "invoiced") := by
  have required : book.requireJob id = .ok job := by
    rw [requireJob, found]
    rfl
  have stands : job.status = .pending ∨ job.status.isTerminal := by
    rw [← Bool.not_eq_true, Job.isUnderWay_iff, not_and_or] at barred
    simpa using barred
  refine (bind_of_eq_ok required).trans ?_
  rw [if_pos stands]
  rfl

/-- A job that is under way and has no invoice is refused one only by a fault of the store. -/
private theorem attachInvoice_eq_error (found : book.fetchJob id = .ok (some job))
    (underWay : job.isUnderWay) (uninvoiced : job.invoiceId = none) {cause : TransitionError}
    (refused : book.attachInvoice id amountSats invoiceId now = .error cause) :
    ∃ fault, cause = .store fault := by
  have required : book.requireJob id = .ok job := by
    rw [requireJob, found]
    rfl
  have unbarred : ¬(job.status = .pending ∨ job.status.isTerminal) := by
    simpa using Job.isUnderWay_iff.mp underWay
  obtain ⟨row, member, same, _⟩ := fetchJob_eq_some found
  rw [attachInvoice, bind_of_eq_ok required, if_neg unbarred] at refused
  simp only [uninvoiced, bind_eq_error_iff, liftMove_eq_error_iff, liftMove_eq_ok_iff,
    pure, Except.pure, reduceCtorEq,
    and_false, exists_false, or_false] at refused
  rcases refused with ⟨fault, _, rfl⟩ | ⟨_, priced, ⟨fault, _, rfl⟩ | ⟨_, owed, ⟨fault, _, rfl⟩ |
    ⟨_, recorded, unread⟩⟩⟩
  · exact ⟨fault, rfl⟩
  · exact ⟨fault, rfl⟩
  · exact ⟨fault, rfl⟩
  · unfold writeInvoice at priced
    split at priced <;> cases priced
    obtain rfl := changeDebt_eq_ok owed
    obtain rfl := recordTransaction_eq_ok recorded
    exact requireJob_eq_error ⟨_, List.mem_map_of_mem member, by simp [same]⟩ unread

/-! ## Jobs that carry invoices -/

/-- A job carries an invoice at a price. -/
def Carries (book : Book) (id : String) (amountSats : Int) (invoiceId : String) : Prop :=
  ∃ row ∈ book.jobs, row.id = id ∧ row.amountSats = some amountSats ∧
    row.invoiceId = some invoiceId

/-- No job carries an invoice. -/
def Uncarried (book : Book) (invoiceId : String) : Prop :=
  ∀ row ∈ book.jobs, row.invoiceId ≠ some invoiceId

private theorem carries_of_attachInvoice
    (attached : book.attachInvoice id amountSats invoiceId now = .ok (job, after)) :
    after.Carries id amountSats invoiceId := by
  obtain ⟨row, member, found, rfl, shows, _, _, _, _, rfl⟩ := attachInvoice_eq_ok attached
  refine ⟨pricedRow amountSats invoiceId row, ?_, rfl, rfl, rfl⟩
  rw [invoiced, shows.id]
  exact List.mem_map.mpr ⟨row, member, if_pos rfl⟩

private theorem Uncarried.attachInvoice {other : String} (uncarried : book.Uncarried other)
    (apart : invoiceId ≠ other)
    (attached : book.attachInvoice id amountSats invoiceId now = .ok (job, after)) :
    after.Uncarried other := by
  obtain ⟨row, member, found, rfl, shows, _, _, _, _, rfl⟩ := attachInvoice_eq_ok attached
  intro next present
  obtain ⟨old, listed, rfl⟩ := List.mem_map.mp present
  by_cases here : old.id = found.id
  · rw [if_pos here]
    simpa [pricedRow] using apart
  · rw [if_neg here]
    exact uncarried old listed

private theorem KeepsInvoices.uncarried (kept : KeepsInvoices book after)
    (uncarried : book.Uncarried invoiceId) : after.Uncarried invoiceId := by
  intro row present carries
  rcases kept row present with free | ⟨old, member, _, invoice⟩
  · rw [free] at carries
    cases carries
  · exact uncarried old member (invoice.trans carries)

/-! ## One duty -/

private theorem jobs_check (book : Book) (config : MonitorConfig) (now : Instant) :
    (book.attend (.check config now)).2.jobs = book.jobs :=
  (alertSteps_runAlertChecks book config now).jobs_eq

private theorem jobs_acknowledge (tables : book.missing = []) (id : Int) :
    (book.attend (.acknowledge id)).2.jobs = book.jobs := by
  rw [attend_acknowledge tables]

private theorem deed_of_invoiceless {operation : Operation}
    (invoiceless : (Duty.operate operation).Invoiceless) (result : Except Refusal Reply)
    (id : String) (amountSats : Int) :
    Event.deed ⟨operation, result⟩ ≠ .invoiced id amountSats := by
  intro told
  unfold Event.deed at told
  split at told <;> cases told
  rename_i attaches
  cases attaches
  exact invoiceless

/-- A duty that puts no invoice on a job keeps the invoices where they are. -/
theorem keepsInvoices_attend (intact : book.Intact) {duty : Duty}
    (invoiceless : duty.Invoiceless) : KeepsInvoices book (book.attend duty).2 := by
  cases duty with
  | operate operation =>
    exact (perform_change intact.jobsKeyed operation).keepsInvoices
      (deed_of_invoiceless invoiceless _)
  | check config now => exact .of_jobs (jobs_check book config now)
  | acknowledge id => exact .of_jobs (jobs_acknowledge intact.tables id)

/-- An invoice stays on its job at its price. -/
private theorem Carries.attend (carries : book.Carries id amountSats invoiceId)
    (intact : book.Intact) (duty : Duty) :
    (book.attend duty).2.Carries id amountSats invoiceId := by
  cases duty with
  | operate operation =>
    obtain ⟨row, member, rfl, price, invoice⟩ := carries
    have change := perform_change intact.jobsKeyed operation
    obtain ⟨other, present, terms⟩ :=
      change.keepsTerms intact.jobsKeyed member (by simp [invoice])
    exact ⟨other, present, terms.id, terms.amountSats.trans price, terms.invoiceId.trans invoice⟩
  | check config now =>
    rw [Carries, jobs_check]
    exact carries
  | acknowledge number =>
    rw [Carries, jobs_acknowledge intact.tables]
    exact carries

/-- What invoices rely on: that jobs can be read, that the tables agree, and that no debt is
negative. -/
structure Sound (book : Book) : Prop where
  intact : book.Intact
  coherent : book.Coherent
  solvent : book.Solvent

private theorem sound_empty : Sound .empty := ⟨intact_empty, coherent_empty, solvent_empty⟩

private theorem Sound.withAlerts (sound : book.Sound) (alerts : List AlertRow) (lastAlert : Nat) :
    Sound { book with alerts, lastAlert } where
  intact := sound.intact.withAlerts alerts lastAlert
  coherent := sound.coherent.withAlerts alerts lastAlert
  solvent := ⟨sound.solvent.debts, sound.solvent.blocked⟩

private theorem Sound.attend (sound : book.Sound) {duty : Duty} (positive : duty.Positive) :
    (book.attend duty).2.Sound := by
  cases duty with
  | operate operation =>
    have change := perform_change sound.intact.jobsKeyed operation
    have priced := Operation.Positive.deed positive (book.perform operation).1
    exact ⟨sound.intact.perform operation, sound.coherent.change priced change,
      change.solvent sound.coherent priced sound.solvent⟩
  | check config now =>
    exact runAlertChecks_keeps (motive := Sound) (fun _ _ sound => sound.withAlerts ..) config sound
  | acknowledge id =>
    rw [attend_acknowledge sound.intact.tables]
    exact sound.withAlerts ..

end Book

namespace Gateway

variable {g after : Gateway} {r : Request} {now : Instant} {tick : Nat}

/-! ## One completion -/

namespace Attaches

variable {book after : Book} {id invoiceId : String} {amountSats : Int} {status : Nat}

/-- Putting an invoice on a job is a duty, also if the job is refused it. -/
private theorem attends (attaches : Attaches book id amountSats invoiceId now status after)
    (positive : 0 < amountSats) :
    ∃ duty : Duty, duty.Positive ∧ after = (book.attend duty).2 := by
  refine ⟨.operate (.attachInvoice id amountSats invoiceId now), positive, ?_⟩
  have applies : (Operation.attachInvoice id amountSats invoiceId now).apply book =
      Operation.answer .move .job (book.attachInvoice id amountSats invoiceId now) := rfl
  rw [Book.attend_operate applies, Book.atomically]
  cases attaches with
  | refused result => rw [result]
  | carried result => rw [result]

private theorem carries (attaches : Attaches book id amountSats invoiceId now status after)
    (answered : status = 200) : after.Carries id amountSats invoiceId := by
  cases attaches with
  | refused result => exact (statusCode_ne _ answered).elim
  | carried result => exact Book.carries_of_attachInvoice result

private theorem unwritten (attaches : Attaches book id amountSats invoiceId now status after)
    (unanswered : status ≠ 200) :
    after = book ∧ ∃ cause, book.attachInvoice id amountSats invoiceId now = .error cause ∧
      status = cause.statusCode := by
  cases attaches with
  | refused result => exact ⟨rfl, _, result, rfl⟩
  | carried result => exact (unanswered rfl).elim

end Attaches

private theorem Due.reference {book : Book} {place id : String} {completion : Completion}
    {job : Job} (due : Due book r place id completion job) :
    (invoiceRequest job completion.amountSats).reference = id := by
  obtain ⟨row, _, same, shows⟩ := Book.fetchJob_eq_some due.found
  exact shows.id.trans same

/-- An invoice of the provider that goes astray: it is open, and its job is refused it, because the
job is waiting or over or because the store fails. -/
structure Stray (g : Gateway) (now : Instant) (status : Nat) (order : InvoiceRequest)
    (invoice : Invoice) (job : Job) : Prop where
  found : g.book.fetchJob order.reference = .ok (some job)
  refused : ∃ cause, g.book.attachInvoice order.reference order.amountSats invoice.id now =
      .error cause ∧ status = cause.statusCode ∧
    if job.isUnderWay then ∃ fault, cause = .store fault
    else cause = .notAllowed job.status.name "invoiced"

/-- What a completion leaves behind. It orders one invoice at most. If it is answered 200, the job
carries the invoice, which the provider has opened if there is one, at the amount of the request.
If it is not, the book is as it was, and an invoice that is open all the same is astray. -/
structure Completed (g : Gateway) (r : Request) (place : String) (now : Instant) (status : Nat)
    (after : Gateway) : Prop where
  ordersOnce : after.ordering = g.ordering ∨ ∃ provider order, g.invoices = some provider ∧
    after.invoices = some (provider.createInvoice order).2
  carried : status = 200 → ∃ id completion invoiceId, decodeSegment place = .ok id ∧
    r.json Completion.shape = .ok completion ∧
    after.book.Carries id completion.amountSats invoiceId ∧
    if g.invoices.isSome then
      ∃ order invoice, g.opening? after = some (order, invoice) ∧ invoice.id = invoiceId ∧
        order.reference = id ∧ order.amountSats = completion.amountSats
    else completion.invoiceId = some invoiceId
  unwritten : status ≠ 200 → after.book = g.book
  astray : status ≠ 200 → ∀ order invoice, g.opening? after = some (order, invoice) →
    ∃ job, Stray g now status order invoice job

/-- An invoice that its job is refused is astray. -/
private theorem stray_of_attaches {book : Book} {place id : String} {completion : Completion}
    {job : Job} {invoice : Invoice} {status : Nat} (due : Due g.book r place id completion job)
    (attaches : Attaches g.book id completion.amountSats invoice.id now status book)
    (unanswered : status ≠ 200) :
    Stray g now status (invoiceRequest job completion.amountSats) invoice job := by
  obtain ⟨_, cause, result, told⟩ := attaches.unwritten unanswered
  refine ⟨due.reference ▸ due.found, cause, due.reference ▸ result, told, ?_⟩
  cases underWay : job.isUnderWay with
  | true => exact Book.attachInvoice_eq_error due.found underWay due.uninvoiced result
  | false =>
    rw [Book.attachInvoice_of_barred due.found underWay] at result
    cases result
    rfl

section Outcomes

variable {place : String} {status : Nat}
  (completes : Completes g.book g.invoices r place now status after.book after.invoices)
include completes

/-- An invoice that was opened was due, and its job was to take it. -/
private theorem attaches_of_opening {order : InvoiceRequest} {invoice : Invoice}
    (opened : g.opening? after = some (order, invoice)) :
    ∃ id completion job, Due g.book r place id completion job ∧
      order = invoiceRequest job completion.amountSats ∧
      Attaches g.book id completion.amountSats invoice.id now status after.book := by
  generalize after.book = book at completes ⊢
  generalize ordered : after.invoices = invoices at completes
  cases completes with
  | turnedAway =>
    rw [opening?_of_same (by rw [ordering, ordering, ordered])] at opened
    cases opened
  | unopened due present failed =>
    rw [opening?_createInvoice present ordered, failed] at opened
    cases opened
  | given due absent =>
    rw [opening?_of_same (by rw [ordering, ordering, ordered, absent])] at opened
    cases opened
  | opened due present opens attaches =>
    rw [opening?_createInvoice present ordered, opens] at opened
    cases opened
    exact ⟨_, _, _, due, rfl, attaches⟩

private theorem completed_of_completes : Completed g r place now status after := by
  have astray (unanswered : status ≠ 200) (order : InvoiceRequest) (invoice : Invoice)
      (opened : g.opening? after = some (order, invoice)) :
      ∃ job, Stray g now status order invoice job := by
    obtain ⟨_, _, job, due, rfl, attaches⟩ := attaches_of_opening completes opened
    exact ⟨job, stray_of_attaches due attaches unanswered⟩
  generalize written : after.book = book at completes
  generalize ordered : after.invoices = invoices at completes
  cases completes with
  | turnedAway refused =>
    have same : after.ordering = g.ordering := by rw [ordering, ordering, ordered]
    exact ⟨.inl same, fun answered => (refused answered).elim, fun _ => written, astray⟩
  | unopened due present failed refused =>
    exact ⟨.inr ⟨_, _, present, ordered⟩, fun answered => (refused answered).elim,
      fun _ => written, astray⟩
  | given due absent external attaches =>
    have same : after.ordering = g.ordering := by rw [ordering, ordering, ordered, absent]
    refine ⟨.inl same, fun answered => ?_, fun unanswered => ?_, astray⟩
    · refine ⟨_, _, _, due.named, due.read, written ▸ attaches.carries answered, ?_⟩
      rw [absent]
      exact external
    · exact written.trans (attaches.unwritten unanswered).1
  | opened due present opens attaches =>
    have opening := opening?_createInvoice present ordered
    rw [opens] at opening
    refine ⟨.inr ⟨_, _, present, ordered⟩, fun answered => ?_, fun unanswered => ?_, astray⟩
    · refine ⟨_, _, _, due.named, due.read, written ▸ attaches.carries answered, ?_⟩
      rw [present]
      exact ⟨_, _, opening, rfl, due.reference, rfl⟩
    · exact written.trans (attaches.unwritten unanswered).1

end Outcomes

/-- A request to complete a job is turned away, or the job is completed. -/
private theorem completes_handle {place : String}
    (found : Route.ofPath? r.path = some (.agent (.complete place))) :
    Completes g.book g.invoices r place now (g.handle r now tick).1.status
      (g.handle r now tick).2.book (g.handle r now tick).2.invoices := by
  have reaches := reaches_handle g r now tick
  generalize (g.handle r now tick).1.status = status at reaches ⊢
  generalize (g.handle r now tick).2 = after at reaches ⊢
  cases reaches with
  | turnedAway refused agents => exact .turnedAway refused
  | served there answers agents =>
    rw [found] at there
    cases there
    unfold serve
    rw [if_neg (by simp [answers])]
    exact completes_completeJob { g with agents } r place now

/-! ## One request -/

variable {invoiceId : String}

section Steps

variable {book after : Book} {invoices later : Option InvoiceProvider} {place : String}
  {status : Nat}

private theorem Completes.attends
    (completes : Completes book invoices r place now status after later) :
    after = book ∨ ∃ duty : Duty, duty.Positive ∧ after = (book.attend duty).2 := by
  cases completes with
  | turnedAway => exact .inl rfl
  | unopened => exact .inl rfl
  | given due _ _ attaches => exact .inr (attaches.attends due.positive)
  | opened due _ _ attaches => exact .inr (attaches.attends due.positive)

private theorem Completes.provided
    (completes : Completes book invoices r place now status after later) :
    later.isSome = invoices.isSome := by
  cases completes with
  | turnedAway => rfl
  | unopened _ present => rw [present, Option.isSome_some, Option.isSome_some]
  | given _ absent => rw [absent]
  | opened _ present => rw [present, Option.isSome_some, Option.isSome_some]

end Steps

/-- Whatever a request is, it does one duty on the book or nothing. -/
theorem handle_attends (g : Gateway) (r : Request) (now : Instant) (tick : Nat) :
    (g.handle r now tick).2.book = g.book ∨
      ∃ duty : Duty, duty.Positive ∧ (g.handle r now tick).2.book = (g.book.attend duty).2 := by
  rcases handle_cases g r now tick with ⟨_, same | ⟨duty, invoiceless, does⟩⟩ | ⟨_, _, completes⟩
  · exact .inl same
  · exact .inr ⟨duty, invoiceless.positive, does⟩
  · exact completes.attends

private theorem sound_handle (sound : g.book.Sound) (r : Request) (now : Instant) (tick : Nat) :
    (g.handle r now tick).2.book.Sound := by
  rcases handle_attends g r now tick with same | ⟨duty, positive, does⟩
  · rwa [same]
  · rw [does]
    exact sound.attend positive

private theorem carries_handle {id : String} {amountSats : Int} (intact : g.book.Intact)
    (carries : g.book.Carries id amountSats invoiceId) (r : Request) (now : Instant) (tick : Nat) :
    (g.handle r now tick).2.book.Carries id amountSats invoiceId := by
  rcases handle_attends g r now tick with same | ⟨duty, _, does⟩
  · rwa [same]
  · rw [does]
    exact carries.attend intact duty

/-- A provider stays, and where there is none, none comes. -/
theorem provided_handle (g : Gateway) (r : Request) (now : Instant) (tick : Nat) :
    (g.handle r now tick).2.ordering.isSome = g.ordering.isSome := by
  have told (g : Gateway) : g.ordering.isSome = g.invoices.isSome := Option.isSome_map
  rcases handle_cases g r now tick with nothing | ⟨_, _, completes⟩
  · rw [nothing.ordering]
  · rw [told, told, completes.provided]

/-- Where there is a provider, no invoice comes onto a job but the one that it has opened. -/
theorem uncarried_handle (intact : g.book.Intact) (provided : g.ordering.isSome)
    (uncarried : g.book.Uncarried invoiceId)
    (apart : ∀ order invoice, g.opening? (g.handle r now tick).2 = some (order, invoice) →
      invoice.id ≠ invoiceId) :
    (g.handle r now tick).2.book.Uncarried invoiceId := by
  rcases handle_cases g r now tick with ⟨_, same | ⟨duty, invoiceless, does⟩⟩ | ⟨_, _, completes⟩
  · rwa [same]
  · rw [does]
    exact (Book.keepsInvoices_attend intact invoiceless).uncarried uncarried
  · generalize (g.handle r now tick).2 = after at completes apart ⊢
    generalize written : after.book = book at completes ⊢
    generalize ordered : after.invoices = invoices at completes
    cases completes with
    | turnedAway => exact uncarried
    | unopened => exact uncarried
    | given _ absent =>
      rw [ordering, absent] at provided
      cases provided
    | opened due present opens attaches =>
      have opening := opening?_createInvoice present ordered
      rw [opens] at opening
      cases attaches with
      | refused => exact uncarried
      | carried result => exact uncarried.attachInvoice (apart _ _ opening) result

/-! ## Requests one after the other -/

end Gateway

/-- A request with the time and the tick at which it is handled. -/
structure Arrival where
  request : Request
  now : Instant
  tick : Nat

/-- An invoice that the provider has opened. -/
structure Opening where
  order : InvoiceRequest
  invoiceId : String
  /-- Whether its job was neither waiting nor over when it was opened. -/
  underWay : Bool
deriving DecidableEq, Repr

/-- Whether a job that is neither waiting nor over is found under an id. -/
def Book.isUnderWay (book : Book) (id : String) : Bool :=
  match book.fetchJob id with
  | .ok (some job) => job.isUnderWay
  | _ => false

private theorem Book.isUnderWay_of_found {book : Book} {id : String} {job : Job}
    (found : book.fetchJob id = .ok (some job)) : book.isUnderWay id = job.isUnderWay := by
  rw [isUnderWay, found]

/-- What becomes of an opened invoice: it is carried by the job that it was opened for, or by
none. -/
def Opening.Placed (opening : Opening) (book : Book) : Prop :=
  if opening.underWay then
    book.Carries opening.order.reference opening.order.amountSats opening.invoiceId
  else book.Uncarried opening.invoiceId

namespace Gateway

/-- What is told of an invoice when it has been opened. -/
def told (g : Gateway) (opened : InvoiceRequest × Invoice) : Opening :=
  { order := opened.1
    invoiceId := opened.2.id
    underWay := g.book.isUnderWay opened.1.reference }

/-- Handles requests one after the other and tells which invoices were opened, the first one
first. -/
def run (g : Gateway) : List Arrival → List Opening × Gateway
  | [] => ([], g)
  | arrival :: rest =>
    let next := (g.handle arrival.request arrival.now arrival.tick).2
    let (later, last) := next.run rest
    (((g.opening? next).map g.told).toList ++ later, last)

private theorem run_cons (g : Gateway) (arrival : Arrival) (rest : List Arrival) {next : Gateway}
    (handled : (g.handle arrival.request arrival.now arrival.tick).2 = next) :
    g.run (arrival :: rest) =
      (((g.opening? next).map g.told).toList ++ (next.run rest).1, (next.run rest).2) := by
  subst handled
  rfl

/-- The provider opens invoices under new ids: no two have the same one, and no job carries one of
them at the start. -/
structure OpensAnew (g : Gateway) (arrivals : List Arrival) : Prop where
  distinct : ((g.run arrivals).1.map (·.invoiceId)).Nodup
  uncarried : ∀ opening ∈ (g.run arrivals).1, g.book.Uncarried opening.invoiceId

variable {g : Gateway} {r : Request} {now : Instant} {tick : Nat}

/-- An invoice that is opened under a new id is put on its job if that is under way. -/
theorem placed_handle (sound : g.book.Sound) {order : InvoiceRequest} {invoice : Invoice}
    (opened : g.opening? (g.handle r now tick).2 = some (order, invoice))
    (anew : g.book.Uncarried invoice.id) :
    if g.book.isUnderWay order.reference then
      (g.handle r now tick).2.book.Carries order.reference order.amountSats invoice.id
    else (g.handle r now tick).2.book = g.book := by
  rcases handle_cases g r now tick with ⟨same, _⟩ | ⟨_, _, completes⟩
  · rw [opening?_of_same same] at opened
    cases opened
  obtain ⟨id, completion, job, due, rfl, attaches⟩ := attaches_of_opening completes opened
  generalize (g.handle r now tick).2.book = book at attaches ⊢
  rw [due.reference, Book.isUnderWay_of_found due.found]
  cases underWay : job.isUnderWay with
  | false =>
    cases attaches with
    | refused => rfl
    | carried result =>
      rw [Book.attachInvoice_of_barred due.found underWay] at result
      cases result
  | true =>
    obtain ⟨row, member, same, shows⟩ := Book.fetchJob_eq_some due.found
    obtain ⟨started, going⟩ := Job.isUnderWay_iff.mp underWay
    have takes : g.book.TakesInvoice id invoice.id :=
      ⟨row, member, same, shows.invoiceId.symm.trans due.uninvoiced,
        ⟨job.status, shows.status, started, going⟩, fun other present _ => anew other present⟩
    obtain ⟨answer, succeeds⟩ :=
      Book.attachInvoice_succeeds sound.intact sound.solvent takes due.positive now
    cases attaches with
    | refused result =>
      rw [succeeds] at result
      cases result
    | carried result => exact Book.carries_of_attachInvoice result

/-- An invoice that is carried stays carried, whatever requests come. -/
theorem carries_run {id invoiceId : String} {amountSats : Int} (sound : g.book.Sound)
    (carries : g.book.Carries id amountSats invoiceId) (arrivals : List Arrival) :
    (g.run arrivals).2.book.Carries id amountSats invoiceId := by
  induction arrivals generalizing g with
  | nil => exact carries
  | cons arrival rest ih =>
    exact ih (sound_handle sound ..) (carries_handle sound.intact carries ..)

/-- An invoice that no job carries is carried by none later, unless it is opened once more. -/
theorem uncarried_run {invoiceId : String} (sound : g.book.Sound) (provided : g.ordering.isSome)
    (uncarried : g.book.Uncarried invoiceId) {arrivals : List Arrival}
    (unopened : ∀ opening ∈ (g.run arrivals).1, opening.invoiceId ≠ invoiceId) :
    (g.run arrivals).2.book.Uncarried invoiceId := by
  induction arrivals generalizing g with
  | nil => exact uncarried
  | cons arrival rest ih =>
    refine ih (sound_handle sound ..) (by rwa [provided_handle]) ?_ ?_
    · refine uncarried_handle sound.intact provided uncarried fun order invoice opened => ?_
      exact unopened (g.told (order, invoice)) (by simp [run, opened])
    · exact fun opening later => unopened opening (List.mem_append_right _ later)

/-- Where there is no provider, nothing is opened. -/
theorem run_of_unprovided (absent : g.ordering.isSome = false) (arrivals : List Arrival) :
    (g.run arrivals).1 = [] := by
  induction arrivals generalizing g with
  | nil => rfl
  | cons arrival rest ih =>
    have none : g.ordering = none := by simpa using absent
    rw [run_cons g arrival rest rfl, ih (by rwa [provided_handle]), opening?, none]
    rfl

namespace OpensAnew

variable {arrival : Arrival} {rest : List Arrival}

/-- The invoice that is opened first is new, and is not opened once more. -/
private theorem first (anew : g.OpensAnew (arrival :: rest)) {next : Gateway}
    (handled : (g.handle arrival.request arrival.now arrival.tick).2 = next)
    {order : InvoiceRequest} {invoice : Invoice} (opened : g.opening? next = some (order, invoice)) :
    g.book.Uncarried invoice.id ∧
      ∀ opening ∈ (next.run rest).1, opening.invoiceId ≠ invoice.id := by
  obtain ⟨distinct, uncarried⟩ := anew
  rw [run_cons g arrival rest handled, opened] at distinct uncarried
  refine ⟨uncarried (g.told (order, invoice)) List.mem_cons_self, fun opening later same => ?_⟩
  exact (List.nodup_cons.mp distinct).1 (List.mem_map.mpr ⟨opening, later, same⟩)

/-- What is opened later is new then, too. -/
private theorem others (anew : g.OpensAnew (arrival :: rest)) (intact : g.book.Intact)
    (provided : g.ordering.isSome) :
    (g.handle arrival.request arrival.now arrival.tick).2.OpensAnew rest := by
  refine ⟨?_, fun opening later => ?_⟩
  · have distinct := anew.distinct
    rw [run_cons g arrival rest rfl, List.map_append] at distinct
    exact (List.nodup_append.mp distinct).2.1
  · refine uncarried_handle intact provided ?_ fun order invoice opened => ?_
    · exact anew.uncarried opening (List.mem_append_right _ later)
    · exact ((anew.first rfl opened).2 opening later).symm

end OpensAnew

/-- Every invoice that is opened under a new id comes onto its job and stays there, if the job is
under way; if it is not, no job ever carries it. -/
theorem placed_run (sound : g.book.Sound) (provided : g.ordering.isSome) {arrivals : List Arrival}
    (anew : g.OpensAnew arrivals) :
    ∀ opening ∈ (g.run arrivals).1, opening.Placed (g.run arrivals).2.book := by
  induction arrivals generalizing g with
  | nil => exact List.forall_mem_nil _
  | cons arrival rest ih =>
    have sound' := sound_handle sound arrival.request arrival.now arrival.tick
    have provided' := provided_handle g arrival.request arrival.now arrival.tick
    rw [provided] at provided'
    have later := ih sound' provided' (anew.others sound.intact provided)
    rw [run_cons g arrival rest rfl]
    intro opening listed
    rcases List.mem_append.mp listed with new | old
    swap
    · exact later opening old
    rw [Option.mem_toList, Option.map_eq_some_iff] at new
    obtain ⟨⟨order, invoice⟩, opened, rfl⟩ := new
    obtain ⟨fresh, once⟩ := anew.first rfl opened
    have placed := placed_handle sound opened fresh
    have told : (g.told (order, invoice)).underWay = g.book.isUnderWay order.reference := rfl
    rw [Opening.Placed, told]
    cases underWay : g.book.isUnderWay order.reference with
    | true =>
      rw [underWay] at placed
      exact carries_run sound' placed rest
    | false =>
      rw [underWay] at placed
      exact uncarried_run sound' provided' (placed.symm ▸ fresh) once

/-- What becomes of the invoices that the provider opens. A completion that is answered 200 leaves
its invoice on the job. One that is refused leaves the book as it was, but the invoice may be open
by then: the job is looked at for an invoice before the provider is called, and for its status only
afterwards. So of the invoices that are opened under new ids, one request after the other, exactly
those are carried in the end whose jobs were under way. -/
theorem openings_placed (g : Gateway) (arrivals : List Arrival) :
    (∀ r now tick place, Route.ofPath? r.path = some (.agent (.complete place)) →
      Completed g r place now (g.handle r now tick).1.status (g.handle r now tick).2) ∧
    ∀ duties : List Duty, (∀ duty ∈ duties, duty.Positive) → g.book = (Book.empty.watch duties).2 →
      g.OpensAnew arrivals →
      ∀ opening ∈ (g.run arrivals).1, opening.Placed (g.run arrivals).2.book := by
  refine ⟨fun r now tick place found => ?_, fun duties positive watched anew => ?_⟩
  · exact completed_of_completes (completes_handle found)
  · have sound : g.book.Sound :=
      watched ▸ Book.watch_keeps (fun sound safe => sound.attend safe) Book.sound_empty positive
    cases provided : g.ordering.isSome with
    | true => exact placed_run sound provided anew
    | false =>
      rw [run_of_unprovided provided]
      exact List.forall_mem_nil _

/-- Two jobs of one user; the second one has been handed to an agent. -/
def pricedJobs : List Operation :=
  [.createUser "u" none "active" ⟨0, 0⟩,
   .createJob "j" ⟨"u", "s", .cancel, .scheduled, none⟩ ⟨1, 0⟩,
   .createJob "k" ⟨"u", "s", .resume, .onDemand, none⟩ ⟨1, 0⟩,
   .claim ["k"] ⟨2, 0⟩]

/-- A gateway with a provider that opens two invoices. -/
def providedGateway : Gateway :=
  { create { agent := { sharedSecret := some "s3cret" } }
      (Book.empty.watch (pricedJobs.map Duty.operate)).2 with
    invoices := some
      { name := "btcpay"
        openings := [.ok ⟨"i", none⟩, .ok ⟨"l", none⟩]
        confirmations := [] } }

/-- A signed request that completes a job for 700 sats. -/
def completionRequest (job nonce signature : String) : Request :=
  { method := "POST"
    target := "/agent/jobs/" ++ job ++ "/complete"
    headers :=
      [("Content-Type", "application/json"), ("X-Agent-Timestamp", "3"), ("X-Agent-Nonce", nonce),
       ("X-Agent-Signature", signature)]
    body := utf8 "\x7b\"amount_sats\":700\x7d" }

/-- The completion of the job that is still waiting. -/
def earlyCompletion : Request :=
  completionRequest "j" "n-1" "061b0454e639db6a84195c937904ec662cf84e581f42477eb2ad50bf44561b58"

/-- Both jobs are completed. -/
def completions : List Arrival :=
  [⟨earlyCompletion, ⟨3, 0⟩, 0⟩,
   ⟨completionRequest "k" "n-2" "aafd117fd9dbb6be5d9af492507b543967648445642a3b8f0e138fdcc6c41f04",
    ⟨3, 0⟩, 0⟩]

/-- The waiting job is refused the invoice that has been opened for it, and no job carries it. The
other one carries its invoice. -/
theorem openings_placed_completions :
    ((providedGateway.run completions).1 =
        [⟨⟨700, "j", "s cancel"⟩, "i", false⟩, ⟨⟨700, "k", "s resume"⟩, "l", true⟩] ∧
      (providedGateway.handle earlyCompletion ⟨3, 0⟩ 0).1.status = 409) ∧
    Completed providedGateway earlyCompletion "j" ⟨3, 0⟩
      (providedGateway.handle earlyCompletion ⟨3, 0⟩ 0).1.status
      (providedGateway.handle earlyCompletion ⟨3, 0⟩ 0).2 ∧
    (providedGateway.run completions).2.book.Uncarried "i" ∧
    (providedGateway.run completions).2.book.Carries "k" 700 "l" := by
  have evaluated : (providedGateway.run completions).1 =
        [⟨⟨700, "j", "s cancel"⟩, "i", false⟩, ⟨⟨700, "k", "s resume"⟩, "l", true⟩] ∧
      (providedGateway.handle earlyCompletion ⟨3, 0⟩ 0).1.status = 409 := by decide +kernel
  have bare : ∀ row ∈ providedGateway.book.jobs, row.invoiceId = none := by decide +kernel
  have anew : providedGateway.OpensAnew completions := by
    refine ⟨?_, fun opening _ row member => by simp [bare row member]⟩
    rw [evaluated.1]
    decide
  obtain ⟨completed, placed⟩ := openings_placed providedGateway completions
  have all := placed (pricedJobs.map .operate) (by decide) rfl anew
  rw [evaluated.1] at all
  refine ⟨evaluated, completed _ _ _ _ (by decide +kernel), ?_, ?_⟩
  · simpa [Opening.Placed] using all _ List.mem_cons_self
  · simpa [Opening.Placed] using all _ (List.mem_cons_of_mem _ List.mem_cons_self)

end Gateway

end JobRelay
