import JobRelay.Proofs.Money.Payable
import JobRelay.Proofs.Session.History

/-! # Jobs are handed out once

A claim names jobs as it likes: twice, unknown ones, jobs that have long been started. It hands out
those that wait, each one once and in the order in which they are first named, and writes nothing
else. No operation makes a started job wait again, so over a whole session no job is handed out a
second time.
-/

namespace JobRelay

/-- The ids of the jobs that an event hands to the agent. -/
def Event.handedOut : Event → List String
  | ⟨.claim _ _, .ok (.jobs jobs)⟩ => jobs.map (·.id)
  | _ => []

namespace Book

variable {book after : Book} {id : String} {ids : List String} {now : Instant}

/-- Whether a job waits to be handed out. -/
def waits (book : Book) (id : String) : Bool :=
  book.jobs.any fun row => row.id == id && row.status == JobStatus.pending.name

/-- The ids of a list whose jobs wait, each where it is named first. -/
def waitingOf (book : Book) (ids : List String) : List String :=
  (ids.filter book.waits).eraseDups

/-- The book with one job handed to the agent. -/
def dispatch (book : Book) (id : String) (now : Instant) : Book :=
  book.moved id .pending .dispatched .agent none now fun row => row

/-- The book with jobs handed to the agent and one move recorded for each. -/
def handedOver (book : Book) (ids : List String) (now : Instant) : Book :=
  { book with
    jobs := book.jobs.map fun row => if row.id ∈ ids then movedRow .dispatched now row else row
    history := book.history ++ ids.mapIdx fun index id =>
      { id := book.lastHistory + (index + 1)
        jobId := id
        fromStatus := some JobStatus.pending.name
        toStatus := JobStatus.dispatched.name
        actor := Named.name Actor.agent
        reason := none
        createdAt := now.stored }
    lastHistory := book.lastHistory + ids.length }

/-! ## Which jobs wait -/

private theorem waits_iff : book.waits id ↔
    ∃ row ∈ book.jobs, row.id = id ∧ row.status = JobStatus.pending.name := by
  simp [waits]

private theorem nodup_eraseDups (ids : List String) : ids.eraseDups.Nodup := by
  cases ids with
  | nil => exact .nil
  | cons id rest =>
    rw [List.eraseDups_cons, List.nodup_cons]
    refine ⟨fun again => ?_, nodup_eraseDups _⟩
    simpa using List.mem_eraseDups.mp again
termination_by ids.length
decreasing_by exact Nat.lt_succ_of_le (List.length_filter_le _ _)

private theorem mem_waitingOf : id ∈ book.waitingOf ids ↔ id ∈ ids ∧ book.waits id := by
  rw [waitingOf, List.mem_eraseDups, List.mem_filter]

private theorem waitingOf_cons_of_started (started : book.waits id = false) :
    book.waitingOf (id :: ids) = book.waitingOf ids := by
  rw [waitingOf, List.filter_cons_of_neg (by simp [started]), waitingOf]

private theorem status_dispatched (now : Instant) (row : JobRow) :
    (movedRow .dispatched now row).status ≠ JobStatus.pending.name := by
  intro same
  change JobStatus.dispatched.name = JobStatus.pending.name at same
  cases JobStatus.name_inj same

/-- A job that is handed over waits no longer; the others wait as before. -/
private theorem waits_dispatch (book : Book) (id other : String) (now : Instant) :
    (book.dispatch id now).waits other = (book.waits other && !other == id) := by
  rw [Bool.eq_iff_iff, Bool.and_eq_true, waits_iff, waits_iff]
  constructor
  · rintro ⟨_, present, rfl, stands⟩
    obtain ⟨row, member, rfl⟩ := List.mem_map.mp present
    by_cases here : row.id = id
    · rw [if_pos here] at stands
      exact (status_dispatched now row stands).elim
    · rw [if_neg here] at stands ⊢
      exact ⟨⟨row, member, rfl, stands⟩, by simpa using here⟩
  · rintro ⟨⟨row, member, rfl, stands⟩, apart⟩
    exact ⟨row, List.mem_map.mpr ⟨row, member, if_neg (by simpa using apart)⟩, rfl, stands⟩

private theorem waitingOf_cons_of_waits (waiting : book.waits id) (ids : List String)
    (now : Instant) : book.waitingOf (id :: ids) = id :: (book.dispatch id now).waitingOf ids := by
  rw [waitingOf, List.filter_cons_of_pos waiting, List.eraseDups_cons, waitingOf,
    List.filter_filter]
  congr 2
  apply List.filter_congr
  intro other _
  rw [waits_dispatch, Bool.and_comm]

/-! ## One claim -/

private theorem handedOver_nil (book : Book) (now : Instant) : book.handedOver [] now = book := by
  simp [handedOver]

/-- Handing over one job and then others is handing over all of them. -/
private theorem handedOver_dispatch (book : Book) (id : String) (ids : List String)
    (now : Instant) :
    (book.dispatch id now).handedOver ids now = book.handedOver (id :: ids) now := by
  have jobs : (updateJobs book.jobs id fun row => movedRow .dispatched now row).map
      (fun row => if row.id ∈ ids then movedRow .dispatched now row else row) =
        book.jobs.map fun row =>
          if row.id ∈ id :: ids then movedRow .dispatched now row else row := by
    rw [updateJobs, List.map_map]
    apply List.map_congr_left
    intro row _
    by_cases here : row.id = id
    · simp [here, movedRow]
    · simp [here]
  have count (index : Nat) : book.lastHistory + 1 + (index + 1) =
      book.lastHistory + (index + 1 + 1) := by omega
  simp only [handedOver, dispatch, moved, withMove, jobs, List.mapIdx_cons, List.append_assoc,
    List.length_cons, count, List.cons_append, List.nil_append, Option.map_some]
  congr 1
  omega

private theorem claimOne_of_started (tables : book.missing = []) (started : book.waits id = false)
    (now : Instant) : book.claimOne id now = .ok (none, book) := by
  refine (bind_of_eq_ok (need_of_tables tables .jobs)).trans ?_
  rw [moveJob?, if_neg (by simpa [waits] using started)]
  rfl

/-- A waiting job is handed over if its row can be read. -/
private theorem claimOne_of_waits (tables : book.missing = []) (keyed : book.JobsKeyed)
    {row : JobRow} (member : row ∈ book.jobs) (stands : row.status = JobStatus.pending.name)
    (now : Instant) :
    book.claimOne row.id now =
      (readJob (movedRow .dispatched now row)).map fun job =>
        (some job, book.dispatch row.id now) := by
  have fetched : (book.dispatch row.id now).fetchJob row.id =
      (readJob (movedRow .dispatched now row)).map some :=
    fetchJob_of_found (by exact tables) (jobRow?_updateJobs keyed member rfl fun _ => rfl)
  refine (bind_of_eq_ok (need_of_tables tables .jobs)).trans ?_
  rw [moveJob?_of_stands keyed member stands]
  refine (bind_of_eq_ok (recordMove_of_tables (by exact tables) ..)).trans ?_
  refine (congrArg (· >>= _) fetched).trans ?_
  cases readJob (movedRow .dispatched now row) <;> rfl

private theorem quiet_dispatch {row : JobRow} (member : row ∈ book.jobs)
    (stands : row.status = JobStatus.pending.name) (now : Instant) :
    Quiet book (book.dispatch row.id now) :=
  .moved member stands .dispatched now

/-- A claim that succeeds hands out the waiting jobs as they read once they are moved. -/
private theorem claim_eq_handedOver (tables : book.missing = []) (keyed : book.JobsKeyed)
    {jobs : List Job} (h : book.claim now ids = .ok (jobs, after)) :
    jobs.map (·.id) = book.waitingOf ids ∧ after = book.handedOver (book.waitingOf ids) now ∧
      ∀ job ∈ jobs, ∃ row ∈ book.jobs, readJob (movedRow .dispatched now row) = .ok job := by
  induction ids generalizing book jobs with
  | nil =>
    cases pure_eq_ok_iff.mp h
    exact ⟨rfl, (handedOver_nil _ now).symm, fun _ listed => by cases listed⟩
  | cons id ids ih =>
    simp only [claim, bind_eq_ok_iff, pure_eq_ok_iff] at h
    obtain ⟨⟨handed, middle⟩, one, ⟨more, last⟩, rest, h⟩ := h
    cases h
    cases waiting : book.waits id with
    | false =>
      rw [claimOne_of_started tables waiting] at one
      cases one
      rw [waitingOf_cons_of_started waiting]
      exact ih tables keyed rest
    | true =>
      obtain ⟨row, member, rfl, stands⟩ := waits_iff.mp waiting
      rw [claimOne_of_waits tables keyed member stands] at one
      cases read : readJob (movedRow .dispatched now row) with
      | error fault => simp [read, Except.map] at one
      | ok job =>
        obtain ⟨rfl, rfl⟩ : some job = handed ∧ book.dispatch row.id now = middle := by
          simpa [read, Except.map] using one
        have next := (quiet_dispatch member stands now).jobsKeyed keyed
        obtain ⟨same, written, reads⟩ := ih (by exact tables) next rest
        rw [waitingOf_cons_of_waits waiting ids now, ← handedOver_dispatch]
        refine ⟨?_, written, ?_⟩
        · exact congrArg₂ List.cons (shows_of_readJob read).id same
        · intro other listed
          rcases List.mem_cons.mp listed with rfl | later
          · exact ⟨row, member, read⟩
          · obtain ⟨_, present, shown⟩ := reads other later
            obtain ⟨old, listed, rfl⟩ := List.mem_map.mp present
            refine ⟨old, listed, ?_⟩
            by_cases here : old.id = row.id
            · rwa [if_pos here] at shown
            · rwa [if_neg here] at shown

private theorem JobsKeyed.handedOver (keyed : book.JobsKeyed) (ids : List String) (now : Instant) :
    (book.handedOver ids now).JobsKeyed := by
  have same : (book.handedOver ids now).jobs.map (·.id) = book.jobs.map (·.id) := by
    rw [Book.handedOver, List.map_map]
    apply List.map_congr_left
    intro row _
    by_cases named : row.id ∈ ids <;> simp [named, movedRow_id]
  rw [JobsKeyed, same]
  exact keyed

/-- What a claim hands out and writes: the jobs that wait, as they are now stored, each moved once
with an entry of its own; nothing else is written. -/
structure Claimed (book : Book) (ids : List String) (now : Instant) (jobs : List Job)
    (after : Book) : Prop where
  handed : jobs.map (·.id) = book.waitingOf ids
  status : ∀ job ∈ jobs, job.status = .dispatched
  stored : ∀ job ∈ jobs, after.fetchJob job.id = .ok (some job)
  written : after = book.handedOver (book.waitingOf ids) now

private theorem claimed_of_claim (tables : book.missing = []) (keyed : book.JobsKeyed)
    {jobs : List Job} (h : book.claim now ids = .ok (jobs, after)) :
    Claimed book ids now jobs after := by
  obtain ⟨handed, written, reads⟩ := claim_eq_handedOver tables keyed h
  refine ⟨handed, fun job listed => ?_, fun job listed => ?_, written⟩
  · obtain ⟨row, _, read⟩ := reads job listed
    exact JobStatus.name_inj (shows_of_readJob read).status.symm
  · obtain ⟨row, member, read⟩ := reads job listed
    have same : job.id = row.id := (shows_of_readJob read).id
    have named : row.id ∈ book.waitingOf ids := by
      rw [← handed, ← same]
      exact List.mem_map_of_mem listed
    have present : movedRow .dispatched now row ∈ after.jobs := by
      rw [written]
      exact List.mem_map.mpr ⟨row, member, if_pos named⟩
    have tables' : after.missing = [] := by rw [written]; exact tables
    have keyed' : after.JobsKeyed := by rw [written]; exact keyed.handedOver _ now
    have fetched := fetchJob_of_found tables' (jobRow?_of_mem keyed' present)
    rw [read] at fetched
    rw [same]
    exact fetched

private theorem Intact.dispatch (intact : book.Intact) {row : JobRow} (member : row ∈ book.jobs)
    (stands : row.status = JobStatus.pending.name) (dated : now.Dated) :
    (book.dispatch row.id now).Intact where
  tables := intact.tables
  jobsKeyed := (quiet_dispatch member stands now).jobsKeyed intact.jobsKeyed
  readable := by
    intro other present
    obtain ⟨old, listed, rfl⟩ := List.mem_map.mp present
    obtain ⟨job, read⟩ := intact.readable old listed
    by_cases here : old.id = row.id
    · rw [if_pos here]
      exact ⟨_, readJob_movedRow read .dispatched (readInstant_stored dated)⟩
    · rw [if_neg here]
      exact ⟨job, read⟩
  invoicesKeyed := intact.invoicesKeyed.of_kept (quiet_dispatch member stands now).keepsInvoices

/-- Only a date that cannot be stored keeps waiting jobs from being handed out. -/
theorem claim_succeeds (intact : book.Intact) (fit : now.Dated ∨ book.waitingOf ids = []) :
    ∃ result, book.claim now ids = .ok result := by
  induction ids generalizing book with
  | nil => exact ⟨_, rfl⟩
  | cons id ids ih =>
    cases waiting : book.waits id with
    | false =>
      rw [waitingOf_cons_of_started waiting] at fit
      obtain ⟨_, rest⟩ := ih intact fit
      refine bind_succeeds (claimOne_of_started intact.tables waiting now) ?_
      exact bind_succeeds rest ⟨_, rfl⟩
    | true =>
      rw [waitingOf_cons_of_waits waiting ids now] at fit
      obtain ⟨row, member, rfl, stands⟩ := waits_iff.mp waiting
      have dated : now.Dated := fit.resolve_right (List.cons_ne_nil _ _)
      obtain ⟨job, read⟩ := intact.readable row member
      have one := claimOne_of_waits intact.tables intact.jobsKeyed member stands now
      rw [readJob_movedRow read .dispatched (readInstant_stored dated)] at one
      obtain ⟨_, rest⟩ := ih (intact.dispatch member stands dated) (.inl dated)
      refine bind_succeeds one ?_
      exact bind_succeeds rest ⟨_, rfl⟩

/-! ## Claims in a session -/

private theorem perform_claim (book : Book) (ids : List String) (now : Instant) :
    book.perform (.claim ids now) =
      match book.claim now ids with
      | .ok (jobs, after) => (.ok (.jobs jobs), after)
      | .error cause => (.error (.store cause), book) := by
  rw [perform, atomically, Operation.apply]
  cases book.claim now ids <;> rfl

/-- A claim hands out what waits, or is refused as a whole and writes nothing. It is not refused
when its date can be stored, nor when nothing that it names waits. -/
structure HandsOut (book : Book) (ids : List String) (now : Instant) : Prop where
  outcome :
    (∃ jobs, (book.perform (.claim ids now)).1 = .ok (.jobs jobs) ∧
      Claimed book ids now jobs (book.perform (.claim ids now)).2) ∨
    ∃ refusal, book.perform (.claim ids now) = (.error refusal, book)
  succeeds : now.Dated ∨ book.waitingOf ids = [] →
    ∃ jobs, (book.perform (.claim ids now)).1 = .ok (.jobs jobs)

private theorem Intact.handsOut (intact : book.Intact) (ids : List String) (now : Instant) :
    book.HandsOut ids now where
  outcome := by
    rw [perform_claim]
    cases result : book.claim now ids with
    | error cause => exact .inr ⟨_, rfl⟩
    | ok pair => exact .inl ⟨_, rfl, claimed_of_claim intact.tables intact.jobsKeyed result⟩
  succeeds fit := by
    obtain ⟨⟨jobs, after⟩, result⟩ := claim_succeeds intact fit
    rw [perform_claim, result]
    exact ⟨jobs, rfl⟩

/-- The jobs that an event hands out waited before it and do not wait after it. -/
theorem Intact.handedOut (intact : book.Intact) (operation : Operation) :
    (Event.handedOut ⟨operation, (book.perform operation).1⟩).Nodup ∧
      ∀ id ∈ Event.handedOut ⟨operation, (book.perform operation).1⟩, book.waits id ∧
        ∃ row ∈ (book.perform operation).2.jobs, row.id = id ∧
          row.status ≠ JobStatus.pending.name := by
  cases operation with
  | claim ids now =>
    rcases (intact.handsOut ids now).outcome with ⟨jobs, answer, claimed⟩ | ⟨refusal, same⟩
    · rw [answer]
      have handed : Event.handedOut ⟨.claim ids now, .ok (.jobs jobs)⟩ = book.waitingOf ids :=
        claimed.handed
      rw [handed]
      refine ⟨nodup_eraseDups _, fun id named => ⟨(mem_waitingOf.mp named).2, ?_⟩⟩
      obtain ⟨row, member, rfl, _⟩ := waits_iff.mp (mem_waitingOf.mp named).2
      refine ⟨movedRow .dispatched now row, ?_, rfl, ?_⟩
      · rw [claimed.written]
        exact List.mem_map.mpr ⟨row, member, if_pos named⟩
      · exact status_dispatched now row
    · rw [same]
      exact ⟨.nil, nofun⟩
  | _ => exact ⟨.nil, nofun⟩

/-- The ids of the jobs that were handed out, the first one first. -/
def handedOut (events : List Event) : List String :=
  events.flatMap Event.handedOut

/-- Every job was handed out at most once, and those that were do not wait. -/
structure Started (events : List Event) (book : Book) : Prop where
  once : (handedOut events).Nodup
  started : ∀ id ∈ handedOut events,
    ∃ row ∈ book.jobs, row.id = id ∧ row.status ≠ JobStatus.pending.name

private theorem Started.perform {events : List Event} (begun : Started events book)
    (intact : book.Intact) (recorded : book.Recorded) (operation : Operation) :
    Started (events ++ [⟨operation, (book.perform operation).1⟩]) (book.perform operation).2 := by
  obtain ⟨nodup, fresh⟩ := intact.handedOut operation
  have continues : Continues book (book.perform operation).2 :=
    recorded.continues (recorded.perform intact.jobsKeyed operation) intact
      (perform_change intact.jobsKeyed operation).grows
  have handed : handedOut (events ++ [⟨operation, (book.perform operation).1⟩]) =
      handedOut events ++ Event.handedOut ⟨operation, (book.perform operation).1⟩ := by
    simp [handedOut]
  refine ⟨?_, ?_⟩
  · rw [handed]
    refine begun.once.append nodup fun id old new => ?_
    obtain ⟨row, member, same, moved⟩ := begun.started id old
    obtain ⟨other, listed, rfl, stands⟩ := waits_iff.mp (fresh id new).1
    obtain rfl := intact.jobsKeyed.eq_of_id member listed same
    exact moved stands
  · intro id named
    rw [handed] at named
    rcases List.mem_append.mp named with old | new
    · obtain ⟨row, member, rfl, moved⟩ := begun.started id old
      obtain ⟨other, listed, same, current, next, stood, stands, _, kept⟩ :=
        continues.jobs row member
      refine ⟨other, listed, same, fun waits => kept ?_ (JobStatus.name_inj (stands.symm.trans waits))⟩
      rintro rfl
      exact moved stood
    · exact (fresh id new).2

/-- Over every session each job is handed out at most once, and whatever a claim names next, it
hands out exactly what waits. -/
theorem handedOnce_session (operations : List Operation) :
    (handedOut (Book.empty.session operations).1).Nodup ∧
      ∀ ids now, (Book.empty.session operations).2.HandsOut ids now := by
  have every := session_induction
    (motive := fun events book => book.Intact ∧ book.Recorded ∧ Started events book)
    (fun _ => True) ⟨intact_empty, recorded_empty, .nil, nofun⟩
    (fun events book operation _ ⟨intact, recorded, begun⟩ =>
      ⟨intact.perform operation, recorded.perform intact.jobsKeyed operation,
        begun.perform intact recorded operation⟩)
    operations fun _ _ => trivial
  exact ⟨every.2.2.once, every.1.handsOut⟩

end Book

end JobRelay
