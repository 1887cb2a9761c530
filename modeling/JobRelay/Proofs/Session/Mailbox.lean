import JobRelay.Proofs.Session.Readback

/-! # Waiting codes

The code that a job keeps for its agent is a mailbox with one place. A code that is submitted while
the job waits for one takes the place, whatever was there; whoever takes the code empties it; and
no other operation touches it, so a code stays when its job moves on. Step by step the place holds
what the events of the session say, and no code is handed out twice or for another job.
-/

namespace JobRelay

/-- Whether an operation submits or takes the code of a job. -/
def Operation.handlesCode (id : String) : Operation → Bool
  | .submitOtp other _ => other == id
  | .takeOtp other => other == id
  | _ => false

/-- Whether an event submitted or took the code of a job. -/
def Event.handledCode (id : String) (event : Event) : Bool :=
  event.operation.handlesCode id && event.result.isOk

/-- The code that an event left for a job, without the blanks around it. -/
def Event.submittedCode? (id : String) : Event → Option String
  | ⟨.submitOtp other code, .ok _⟩ => if other = id then some (Text.trim code) else none
  | _ => none

/-- The code that an event handed out for a job. -/
def Event.takenCode? (id : String) : Event → Option String
  | ⟨.takeOtp other, .ok (.code code)⟩ => if other = id then code else none
  | _ => none

/-- The latest event that submitted or took the code of a job submitted it. -/
def LeftWaiting (events : List Event) (id code : String) : Prop :=
  ∃ before event after, events = before ++ event :: after ∧
    event.submittedCode? id = some code ∧ ∀ later ∈ after, later.handledCode id = false

/-- The codes that were left for a job, in order. -/
def submittedCodes (id : String) (events : List Event) : List String :=
  events.filterMap (Event.submittedCode? id)

/-- The codes that were handed out for a job, in order. -/
def takenCodes (id : String) (events : List Event) : List String :=
  events.filterMap (Event.takenCode? id)

namespace Book

variable {book after : Book} {id other code : String}

def waitingCode (book : Book) (id : String) : Option String :=
  (book.jobRow? id).bind (·.otpCode)

/-- A job with an id is there and waits for a code. -/
def AwaitsCode (book : Book) (id : String) : Prop :=
  ∃ row ∈ book.jobs, row.id = id ∧ row.status = JobStatus.awaitingOtp.name

/-! ## Operations that leave codes alone -/

/-- The same codes wait. -/
def KeepsCodes (book after : Book) : Prop :=
  ∀ id, after.waitingCode id = book.waitingCode id

private theorem KeepsCodes.refl (book : Book) : KeepsCodes book book := fun _ => rfl

private theorem KeepsCodes.trans {last : Book} (first : KeepsCodes book after)
    (second : KeepsCodes after last) : KeepsCodes book last :=
  fun id => (second id).trans (first id)

/-- What is changed about jobs apart from ids and codes does not matter. -/
private theorem KeepsCodes.of_updateJobs {update : JobRow → JobRow}
    (jobs : after.jobs = updateJobs book.jobs id update)
    (keeps : ∀ row, (update row).id = row.id ∧ (update row).otpCode = row.otpCode) :
    KeepsCodes book after := by
  have read (book : Book) (id : String) : book.waitingCode id =
      ((book.jobs.map fun row => (row.id, row.otpCode)).find? (·.1 == id)).bind (·.2) := by
    rw [List.find?_map, waitingCode, jobRow?, Option.bind_map]
    rfl
  intro other
  rw [read, read, jobs, map_updateJobs _ _ _ fun row => Prod.ext (keeps row).1 (keeps row).2]

/-- A new job has no code. -/
private theorem keepsCodes_jobAdded (id : String) (request : NewJob) (now : Instant) :
    KeepsCodes book (book.jobAdded id request now) := by
  intro other
  rw [waitingCode, waitingCode, jobRow?, jobAdded, withMove, List.find?_append, ← jobRow?]
  cases book.jobRow? other with
  | some row => rfl
  | none =>
    rw [Option.none_or, Option.bind_none, Option.bind_eq_none_iff]
    intro row found
    obtain rfl := List.mem_singleton.mp (List.mem_of_find?_eq_some found)
    rfl

private theorem keepsCodes_moved {current next : JobStatus} {actor : Actor} {reason : Option String}
    {note : JobRow → JobRow} (law : LawfulMove current next actor reason note) (now : Instant) :
    KeepsCodes book (book.moved id current next actor reason now note) := by
  refine .of_updateJobs rfl fun row => ⟨(law.sameTerms now row).id, ?_⟩
  cases law <;> rfl

private theorem claim_keepsCodes (keyed : book.JobsKeyed) {ids : List String} {now : Instant}
    {jobs : List Job} (h : book.claim now ids = .ok (jobs, after)) : KeepsCodes book after := by
  induction ids generalizing book jobs with
  | nil =>
    cases pure_eq_ok_iff.mp h
    exact .refl after
  | cons id ids ih =>
    simp only [claim, bind_eq_ok_iff, pure_eq_ok_iff] at h
    obtain ⟨⟨_, middle⟩, one, ⟨_, _⟩, rest, h⟩ := h
    cases h
    rcases claimOne_eq_ok keyed one with rfl | ⟨row, member, rfl, stands, rfl⟩
    · exact ih keyed rest
    · have step : Quiet book _ := .moved member stands .dispatched now
      exact (keepsCodes_moved .dispatched now).trans (ih (step.jobsKeyed keyed) rest)

private theorem settle_keepsCodes (keyed : book.JobsKeyed) {now : Instant} {job : Job}
    (h : book.settle id now = .ok (job, after)) : KeepsCodes book after := by
  obtain ⟨_, _, _, _, _, _, _, _, _, _, rfl⟩ := settle_eq_ok keyed h
  exact .of_updateJobs rfl fun _ => ⟨rfl, rfl⟩

/-- Only submitting and taking codes changes which of them wait. -/
theorem perform_keepsCodes (keyed : book.JobsKeyed) {operation : Operation}
    (handles : ∀ id, operation.handlesCode id = false) :
    KeepsCodes book (book.perform operation).2 := by
  unfold perform atomically
  cases result : operation.apply book with
  | error refusal => exact .refl book
  | ok outcome =>
    obtain ⟨reply, after⟩ := outcome
    cases operation with
    | createUser id email status now =>
      simp only [Operation.apply] at result
      split at result
      · rename_i created
        cases result
        obtain ⟨_, rfl⟩ := createUser_eq_ok created
        exact fun _ => rfl
      · cases result
    | createJob id request now =>
      obtain ⟨_, created, _⟩ := answer_eq_ok result
      obtain ⟨_, _, rfl⟩ := createJob_eq_ok created
      exact keepsCodes_jobAdded id request now
    | claim ids now =>
      obtain ⟨_, claimed, _⟩ := answer_eq_ok result
      exact claim_keepsCodes keyed claimed
    | applyReport id report now =>
      obtain ⟨_, reported, _⟩ := answer_eq_ok result
      obtain ⟨_, _, _, _, _, reportable, edge, rfl⟩ := applyReport_eq_ok keyed reported
      exact keepsCodes_moved (.reported report reportable edge) now
    | attachInvoice id amountSats invoiceId now =>
      obtain ⟨_, attached, _⟩ := answer_eq_ok result
      obtain ⟨_, _, _, _, _, _, _, _, _, rfl⟩ := attachInvoice_eq_ok attached
      exact .of_updateJobs rfl fun _ => ⟨rfl, rfl⟩
    | submitOtp id code => exact absurd (handles id) (by simp [Operation.handlesCode])
    | takeOtp id => exact absurd (handles id) (by simp [Operation.handlesCode])
    | forceStatus id next reason now =>
      obtain ⟨_, forced, _⟩ := answer_eq_ok result
      obtain ⟨_, _, _, _, _, allowed, given, rfl⟩ := forceStatus_eq_ok keyed forced
      exact keepsCodes_moved (.forced reason given allowed) now
    | settle id now =>
      obtain ⟨_, settled, _⟩ := answer_eq_ok result
      exact settle_keepsCodes keyed settled
    | settleByInvoice invoiceId now =>
      obtain ⟨_, settled, _⟩ := answer_eq_ok result
      obtain ⟨_, _, _, settled⟩ := settleByInvoice_eq_ok settled
      exact settle_keepsCodes keyed settled
    | recordRenege id now =>
      obtain ⟨_, reneged, _⟩ := answer_eq_ok result
      obtain ⟨_, _, _, _, _, _, rfl⟩ := recordRenege_eq_ok keyed reneged
      exact .of_updateJobs rfl fun _ => ⟨rfl, rfl⟩

/-! ## Submitting and taking -/

private theorem waitingCode_updateJob (id : String) (code : Option String) (other : String) :
    (book.updateJob id (codedRow code)).waitingCode other =
      if other = id then (book.jobRow? id).bind fun _ => code else book.waitingCode other := by
  have keeps (row : JobRow) (here : row.id = id) : (codedRow code row).id = id := here
  have found : (book.updateJob id (codedRow code)).jobRow? other =
      if other = id then (book.jobRow? other).map (codedRow code) else book.jobRow? other := by
    rw [jobRow?]
    exact find?_changedUnder keeps other
  rw [waitingCode, found]
  split
  · rename_i same
    rw [same, Option.bind_map]
    rfl
  · rfl

/-- A code is taken in exchange for nothing. -/
theorem perform_takeOtp (tables : book.missing = []) (id : String) :
    (book.perform (.takeOtp id)).1 = .ok (.code (book.waitingCode id)) ∧
      ∀ other, (book.perform (.takeOtp id)).2.waitingCode other =
        if other = id then none else book.waitingCode other := by
  have table : book.need .jobs = .ok () := by simp [need, tables]
  cases waiting : book.waitingCode id with
  | none =>
    have taken : book.takeOtp id = .ok (none, book) := by
      refine (bind_of_eq_ok table).trans ?_
      rw [← waitingCode, waiting]
      rfl
    have result : book.perform (.takeOtp id) = (.ok (.code none), book) := by
      rw [perform, atomically, Operation.apply, taken]
      rfl
    rw [result]
    refine ⟨rfl, fun other => ?_⟩
    split
    · rename_i same
      rw [same, waiting]
    · rfl
  | some code =>
    have taken : book.takeOtp id = .ok (some code, book.updateJob id (codedRow none)) := by
      refine (bind_of_eq_ok table).trans ?_
      rw [← waitingCode, waiting]
      rfl
    have result : book.perform (.takeOtp id) =
        (.ok (.code (some code)), book.updateJob id (codedRow none)) := by
      rw [perform, atomically, Operation.apply, taken]
      rfl
    rw [result]
    refine ⟨rfl, fun other => ?_⟩
    rw [waitingCode_updateJob, Option.bind_fun_none]

/-- A job that waits for a code gets it, whatever code it had. -/
theorem perform_submitOtp (intact : book.Intact) (awaits : book.AwaitsCode id) (code : String) :
    (book.perform (.submitOtp id code)).1 = .ok .done ∧
      ∀ other, (book.perform (.submitOtp id code)).2.waitingCode other =
        if other = id then some (Text.trim code) else book.waitingCode other := by
  have table : book.need .jobs = .ok () := by simp [need, intact.tables]
  obtain ⟨row, member, rfl, stands⟩ := awaits
  obtain ⟨after, submitted⟩ : ∃ after, book.submitOtp row.id code = .ok after := by
    refine bind_succeeds (liftMove_eq_ok_iff.mpr table) ⟨_, if_pos ?_⟩
    simpa using ⟨row, member, rfl, stands⟩
  obtain ⟨_, _, _, _, written⟩ := submitOtp_eq_ok intact.jobsKeyed submitted
  have result : book.perform (.submitOtp row.id code) = (.ok .done, after) := by
    rw [perform, atomically, Operation.apply, submitted]
  rw [result, written]
  refine ⟨rfl, fun other => ?_⟩
  rw [waitingCode_updateJob, jobRow?_of_mem intact.jobsKeyed member]
  rfl

/-- A job that does not wait for a code refuses it. -/
theorem perform_submitOtp_refused (intact : book.Intact) (awaits : ¬book.AwaitsCode id)
    (code : String) :
    ∃ refusal, book.perform (.submitOtp id code) = (.error refusal, book) := by
  cases submitted : book.submitOtp id code with
  | ok after =>
    obtain ⟨row, member, same, stands, _⟩ := submitOtp_eq_ok intact.jobsKeyed submitted
    exact absurd ⟨row, member, same, stands⟩ awaits
  | error cause =>
    refine ⟨.move cause, ?_⟩
    rw [perform, atomically, Operation.apply, submitted]

/-! ## One event -/

private theorem no_codes {event : Event} (handled : event.handledCode id = false) :
    event.submittedCode? id = none ∧ event.takenCode? id = none := by
  obtain ⟨operation, result⟩ := event
  cases operation with
  | submitOtp other code =>
    cases result with
    | error => exact ⟨rfl, rfl⟩
    | ok reply =>
      have apart : other ≠ id := by
        simpa [Event.handledCode, Operation.handlesCode, Except.isOk, Except.toBool] using handled
      exact ⟨if_neg apart, rfl⟩
  | takeOtp other =>
    cases result with
    | error => exact ⟨rfl, rfl⟩
    | ok reply =>
      have apart : other ≠ id := by
        simpa [Event.handledCode, Operation.handlesCode, Except.isOk, Except.toBool] using handled
      cases reply with
      | code given => exact ⟨rfl, if_neg apart⟩
      | _ => exact ⟨rfl, rfl⟩
  | _ => exact ⟨rfl, rfl⟩

/-- Operations that have nothing to do with the code of a job leave it as it is. -/
theorem waitingCode_perform (intact : book.Intact) {operation : Operation}
    (others : operation.handlesCode id = false) :
    (book.perform operation).2.waitingCode id = book.waitingCode id := by
  cases operation with
  | submitOtp other code =>
    have apart : id ≠ other := (ne_of_beq_false others).symm
    by_cases awaits : book.AwaitsCode other
    · rw [(perform_submitOtp intact awaits code).2 id, if_neg apart]
    · obtain ⟨refusal, refused⟩ := perform_submitOtp_refused intact awaits code
      rw [refused]
  | takeOtp other =>
    have apart : id ≠ other := (ne_of_beq_false others).symm
    rw [(perform_takeOtp intact.tables other).2 id, if_neg apart]
  | _ => exact perform_keepsCodes intact.jobsKeyed (fun _ => rfl) id

/-- An event submits the code of a job, or takes it, or has nothing to do with it. -/
theorem perform_cases (intact : book.Intact) (operation : Operation) (id : String) :
    let event : Event := ⟨operation, (book.perform operation).1⟩
    let after := (book.perform operation).2
    (event.handledCode id ∧ event.takenCode? id = none ∧
        ∃ code, event.submittedCode? id = some code ∧ after.waitingCode id = some code) ∨
      (event.handledCode id ∧ event.submittedCode? id = none ∧
        event.takenCode? id = book.waitingCode id ∧ after.waitingCode id = none) ∨
      (event.handledCode id = false ∧ after.waitingCode id = book.waitingCode id) := by
  intro event after
  cases mine : operation.handlesCode id with
  | false =>
    refine .inr (.inr ⟨?_, waitingCode_perform intact mine⟩)
    exact Bool.and_eq_false_iff.mpr (.inl mine)
  | true =>
    cases operation with
    | submitOtp other code =>
      obtain rfl : other = id := eq_of_beq mine
      by_cases awaits : book.AwaitsCode other
      · obtain ⟨done, codes⟩ := perform_submitOtp intact awaits code
        have told : event = ⟨.submitOtp other code, .ok .done⟩ := congrArg (Event.mk _) done
        rw [told]
        refine .inl ⟨?_, rfl, Text.trim code, if_pos rfl, (codes other).trans (if_pos rfl)⟩
        exact Bool.and_eq_true_iff.mpr ⟨mine, rfl⟩
      · obtain ⟨refusal, refused⟩ := perform_submitOtp_refused intact awaits code
        have told : event = ⟨.submitOtp other code, .error refusal⟩ :=
          congrArg (Event.mk _ ·.1) refused
        rw [told]
        refine .inr (.inr ⟨?_, congrArg (·.2.waitingCode other) refused⟩)
        exact Bool.and_eq_false_iff.mpr (.inr rfl)
    | takeOtp other =>
      obtain rfl : other = id := eq_of_beq mine
      obtain ⟨given, codes⟩ := perform_takeOtp intact.tables other
      have told : event = ⟨.takeOtp other, .ok (.code (book.waitingCode other))⟩ :=
        congrArg (Event.mk _) given
      rw [told]
      refine .inr (.inl ⟨?_, rfl, if_pos rfl, (codes other).trans (if_pos rfl)⟩)
      exact Bool.and_eq_true_iff.mpr ⟨mine, rfl⟩
    | _ => cases mine

/-! ## Every session -/

variable {events : List Event} {event : Event}

/-- An event that handles the code of a job decides whether one waits after it. -/
private theorem leftWaiting_concat :
    LeftWaiting (events ++ [event]) id code ↔
      if event.handledCode id then event.submittedCode? id = some code
      else LeftWaiting events id code := by
  constructor
  · rintro ⟨before, first, after, split, submitted, quiet⟩
    rcases List.eq_nil_or_concat after with rfl | ⟨after, last, rfl⟩
    · obtain ⟨rfl, same⟩ := List.append_inj' split rfl
      obtain rfl := List.singleton_inj.mp same
      have handled : event.handledCode id := by
        by_contra other
        rw [(no_codes (Bool.eq_false_iff.mpr other)).1] at submitted
        cases submitted
      rwa [if_pos handled]
    · rw [List.concat_eq_append] at split quiet
      rw [← List.cons_append, ← List.append_assoc] at split
      obtain ⟨rfl, same⟩ := List.append_inj' split rfl
      obtain rfl := List.singleton_inj.mp same
      have apart := quiet event (List.mem_append_right _ (List.mem_singleton_self event))
      rw [if_neg (Bool.eq_false_iff.mp apart)]
      exact ⟨before, first, after, rfl, submitted, fun later member =>
        quiet later (List.mem_append_left _ member)⟩
  · intro left
    split at left
    · exact ⟨events, event, [], rfl, left, List.forall_mem_nil _⟩
    · rename_i apart
      obtain ⟨before, first, after, rfl, submitted, quiet⟩ := left
      refine ⟨before, first, after ++ [event], by simp, submitted, fun later member => ?_⟩
      rcases List.mem_append.mp member with old | new
      · exact quiet later old
      · obtain rfl := List.mem_singleton.mp new
        exact Bool.eq_false_iff.mpr apart

/-- What is known of the codes of a session. -/
structure CodesKnown (events : List Event) (book : Book) : Prop where
  intact : book.Intact
  waiting : ∀ id code, book.waitingCode id = some code ↔ LeftWaiting events id code
  balance : ∀ id, (takenCodes id events ++ (book.waitingCode id).toList).Sublist
    (submittedCodes id events)

private theorem codesKnown_empty : CodesKnown [] .empty where
  intact := intact_empty
  waiting id code := by
    refine ⟨nofun, ?_⟩
    rintro ⟨before, event, after, split, _⟩
    simp at split
  balance id := .slnil

private theorem CodesKnown.perform (known : CodesKnown events book) (operation : Operation) :
    CodesKnown (events ++ [⟨operation, (book.perform operation).1⟩]) (book.perform operation).2 where
  intact := known.intact.perform operation
  waiting id code := by
    rw [leftWaiting_concat]
    rcases perform_cases known.intact operation id with
      ⟨handled, _, given, submitted, now⟩ | ⟨handled, unsubmitted, _, now⟩ | ⟨apart, now⟩
    · rw [if_pos handled, submitted, now]
    · rw [if_pos handled, unsubmitted, now]
    · rw [if_neg (Bool.eq_false_iff.mp apart), now]
      exact known.waiting id code
  balance id := by
    have soFar := known.balance id
    simp only [takenCodes, submittedCodes, List.filterMap_append] at soFar ⊢
    rcases perform_cases known.intact operation id with
      ⟨_, untaken, given, submitted, now⟩ | ⟨_, unsubmitted, taken, now⟩ | ⟨apart, now⟩
    · rw [List.filterMap_cons_none untaken, List.filterMap_cons_some submitted, now]
      simpa using (List.sublist_append_left _ _).trans soFar
    · rw [List.filterMap_cons_none unsubmitted, now]
      cases waiting : book.waitingCode id with
      | none =>
        rw [waiting] at taken soFar
        rw [List.filterMap_cons_none taken]
        simpa using soFar
      | some code =>
        rw [waiting] at taken soFar
        rw [List.filterMap_cons_some taken]
        simpa using soFar
    · obtain ⟨unsubmitted, untaken⟩ := no_codes apart
      rw [List.filterMap_cons_none untaken, List.filterMap_cons_none unsubmitted, now]
      simpa using soFar

/-- The codes of a session are kept in a mailbox with one place for each job. -/
structure OtpMailbox (events : List Event) (book : Book) : Prop where
  /-- The code that waits is the one submitted last, unless it was taken since. -/
  waiting : ∀ id code, book.waitingCode id = some code ↔ LeftWaiting events id code
  /-- Whoever takes a code gets the one that waits, and none is left. -/
  takes : ∀ id, (book.perform (.takeOtp id)).1 = .ok (.code (book.waitingCode id)) ∧
    (book.perform (.takeOtp id)).2.waitingCode id = none
  /-- Just a job that waits for a code gets what is submitted. -/
  submits : ∀ id code, ((book.perform (.submitOtp id code)).1 = .ok .done ↔ book.AwaitsCode id) ∧
    (book.AwaitsCode id →
      (book.perform (.submitOtp id code)).2.waitingCode id = some (Text.trim code))
  /-- For other jobs the submission is refused, and nothing is written. -/
  refuses : ∀ id code, ¬book.AwaitsCode id →
    ∃ refusal, book.perform (.submitOtp id code) = (.error refusal, book)
  /-- No other operation sets, changes or clears the code. -/
  keeps : ∀ operation id, operation.handlesCode id = false →
    (book.perform operation).2.waitingCode id = book.waitingCode id
  /-- Each code that was handed out for a job is one that was submitted for it, and no submission
  was handed out twice. -/
  handedOut : ∀ id, (takenCodes id events).Sublist (submittedCodes id events)

/-- After every session codes are kept in a mailbox with one place for each job. -/
theorem otpMailbox_session (operations : List Operation) :
    OtpMailbox (Book.empty.session operations).1 (Book.empty.session operations).2 := by
  have known : CodesKnown (Book.empty.session operations).1 (Book.empty.session operations).2 :=
    session_induction (fun _ => True) codesKnown_empty (fun _ _ operation _ known =>
      known.perform operation) operations fun _ _ => trivial
  have intact := known.intact
  exact {
    waiting := known.waiting
    takes := fun id =>
      have ⟨given, codes⟩ := perform_takeOtp intact.tables id
      ⟨given, (codes id).trans (if_pos rfl)⟩
    submits := fun id code => by
      constructor
      · constructor
        · intro done
          by_contra refused
          obtain ⟨refusal, refused⟩ := perform_submitOtp_refused intact refused code
          rw [refused] at done
          cases done
        · intro awaits
          exact (perform_submitOtp intact awaits code).1
      · intro awaits
        exact ((perform_submitOtp intact awaits code).2 id).trans (if_pos rfl)
    refuses := fun id code awaits => perform_submitOtp_refused intact awaits code
    keeps := fun operation id others => waitingCode_perform intact others
    handedOut := fun id => (List.sublist_append_left _ _).trans (known.balance id) }

end Book

end JobRelay
