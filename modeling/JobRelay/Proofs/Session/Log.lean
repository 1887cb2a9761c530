import JobRelay.Book.Row
import JobRelay.Job.Basic
import JobRelay.Text.Blank
import Mathlib.Data.List.Chain
import Mathlib.Logic.Relation

/-! # Logs of moves

Who may move a job from where to where, and what a list of entries has to be to tell the way of
one job: a chain of such moves from its creation to its present status. What no single move does,
such as reviving a job that is over, no chain of moves does.
-/

namespace JobRelay

/-! ## Lawful moves -/

/-- A move that somebody may make, with the reason that is recorded for it. -/
inductive MayMove : Actor → JobStatus → JobStatus → Option String → Prop
  | dispatched : MayMove .agent .pending .dispatched none
  | reported {current next : JobStatus} (note : Option String)
      (reportable : next.isAgentReportable) (edge : current.canMoveTo next) :
      MayMove .agent current next note
  | paid {current : JobStatus} (underWay : current = .dispatched ∨ current = .active) :
      MayMove .settlement current .completedPaid none
  | writtenOff {current : JobStatus} (underWay : current = .dispatched ∨ current = .active) :
      MayMove .settlement current .completedReneged none
  | paidLate : MayMove .settlement .completedReneged .completedEventual none
  | forced {current next : JobStatus} (given : String)
      (nonempty : (Text.trim given).isEmpty = false) (allowed : current.canForceTo next) :
      MayMove .operator current next (some (Text.trim given))

namespace MayMove

variable {actor : Actor} {current next : JobStatus} {reason : Option String}

theorem isTerminal (may : MayMove actor current next reason) (ended : current.isTerminal) :
    next.isTerminal := by
  cases may with
  | dispatched => cases ended
  | reported _ reportable edge =>
    revert reportable edge ended
    cases current <;> cases next <;> decide
  | paid | writtenOff | paidLate => rfl
  | forced _ _ allowed =>
    revert allowed ended
    cases current <;> cases next <;> decide

/-- Only a job that is under way is written off. -/
private theorem ne_completedReneged (may : MayMove actor current next reason)
    (ended : current.isTerminal) : next ≠ .completedReneged := by
  cases may with
  | dispatched | paid | paidLate => decide
  | reported _ reportable _ =>
    rintro rfl
    cases reportable
  | writtenOff underWay => rcases underWay with rfl | rfl <;> cases ended
  | forced _ _ allowed =>
    rintro rfl
    revert allowed
    cases current <;> decide

private theorem ne_pending (may : MayMove actor current next reason) : next ≠ .pending := by
  cases may with
  | dispatched | paid | writtenOff | paidLate => decide
  | reported _ reportable _ =>
    rintro rfl
    cases reportable
  | forced _ _ allowed =>
    rintro rfl
    revert allowed
    cases current <;> decide

theorem of_settlementOwned (may : MayMove actor current next reason)
    (owned : next.isSettlementOwned) : actor = .settlement := by
  cases may with
  | dispatched => cases owned
  | reported _ reportable _ =>
    revert reportable owned
    cases next <;> decide
  | paid | writtenOff | paidLate => rfl
  | forced _ _ allowed =>
    revert allowed owned
    cases current <;> cases next <;> decide

end MayMove

/-- One status comes after another by lawful moves. -/
def JobStatus.Leads : JobStatus → JobStatus → Prop :=
  Relation.ReflTransGen fun current next => ∃ actor reason, MayMove actor current next reason

theorem JobStatus.Leads.isTerminal {status other : JobStatus} (leads : status.Leads other)
    (ended : status.isTerminal) : other.isTerminal := by
  induction leads with
  | refl => exact ended
  | tail _ last ih =>
    obtain ⟨_, _, may⟩ := last
    exact may.isTerminal ih

theorem JobStatus.Leads.ne_completedReneged {status other : JobStatus} (leads : status.Leads other)
    (ended : status.isTerminal) (kept : status ≠ .completedReneged) :
    other ≠ .completedReneged := by
  cases leads with
  | refl => exact kept
  | tail earlier last =>
    obtain ⟨_, _, may⟩ := last
    exact may.ne_completedReneged (JobStatus.Leads.isTerminal earlier ended)

theorem JobStatus.Leads.ne_pending {status other : JobStatus} (leads : status.Leads other)
    (started : status ≠ .pending) : other ≠ .pending := by
  cases leads with
  | refl => exact started
  | tail _ last =>
    obtain ⟨_, _, may⟩ := last
    exact may.ne_pending

/-! ## Logs -/

namespace HistoryRow

/-- The entry that a new job comes with. -/
structure Opens (entry : HistoryRow) : Prop where
  fromStatus : entry.fromStatus = none
  toStatus : entry.toStatus = JobStatus.pending.name
  actor : entry.actor = Named.name Actor.scheduler

/-- An entry goes on, by a lawful move, where the one before it ended. -/
def Follows (earlier later : HistoryRow) : Prop :=
  ∃ actor current next, MayMove actor current next later.reason ∧
    earlier.toStatus = current.name ∧ later.fromStatus = some current.name ∧
    later.toStatus = next.name ∧ later.actor = Named.name actor

/-- The agent reached out to the user. -/
def isOutreach (entry : HistoryRow) : Bool :=
  entry.actor == Named.name Actor.agent && entry.toStatus == JobStatus.outreachSent.name

end HistoryRow

/-- The entries of a job tell how it came to stand where it stands. -/
structure Logged (entries : List HistoryRow) (row : JobRow) : Prop where
  opens : ∃ first, entries.head? = some first ∧ first.Opens
  follows : entries.IsChain HistoryRow.Follows
  last : ∃ entry, entries.getLast? = some entry ∧ entry.toStatus = row.status ∧
    entry.createdAt = row.statusUpdatedAt

namespace Logged

variable {entries more : List HistoryRow} {row other : JobRow}

/-- A log made longer leads from the old status to the new one. -/
theorem leads (logged : Logged entries row) (longer : Logged (entries ++ more) other)
    {current : JobStatus} (stands : row.status = current.name) :
    ∃ next : JobStatus, other.status = next.name ∧ current.Leads next := by
  obtain ⟨last, ends, status, _⟩ := logged.last
  obtain ⟨_, tail, link⟩ := List.isChain_append.mp longer.follows
  have chain : (last :: more).IsChain HistoryRow.Follows :=
    List.isChain_cons.mpr ⟨fun entry first => link last ends entry first, tail⟩
  have reached : ∀ entry ∈ last :: more,
      ∃ next : JobStatus, entry.toStatus = next.name ∧ current.Leads next := by
    refine chain.induction (fun entry => ∃ next : JobStatus, entry.toStatus = next.name ∧
      current.Leads next) _ ?_ ?_
    · rintro entry later ⟨actor, old, next, may, same, _, moved, _⟩ ⟨known, told, leads⟩
      obtain rfl := JobStatus.name_inj (told.symm.trans same)
      exact ⟨next, moved, leads.tail ⟨actor, _, may⟩⟩
    · exact fun _ => ⟨current, status.trans stands, .refl⟩
  obtain ⟨final, ending, same, _⟩ := longer.last
  obtain ⟨next, moved, leads⟩ := reached final (by
    rw [List.getLast?_append, ends] at ending
    cases rest : more.getLast? with
    | none =>
      rw [rest] at ending
      cases ending
      exact List.mem_cons_self
    | some entry =>
      rw [rest] at ending
      cases ending
      exact List.mem_cons_of_mem _ (List.mem_of_getLast? rest))
  exact ⟨next, same.symm.trans moved, leads⟩

/-- The creation of the job comes first, and every other entry follows one. -/
theorem opens_or_follows (logged : Logged entries row) {entry : HistoryRow}
    (member : entry ∈ entries) :
    entry.Opens ∨ ∃ earlier, HistoryRow.Follows earlier entry := by
  refine logged.follows.induction (fun entry => entry.Opens ∨
    ∃ earlier, HistoryRow.Follows earlier entry) _ ?_ ?_ entry member
  · exact fun earlier _ follows _ => .inr ⟨earlier, follows⟩
  · intro nonempty
    obtain ⟨first, begins, opens⟩ := logged.opens
    rw [List.head?_eq_some_head nonempty] at begins
    cases begins
    exact .inl opens

/-- The entries up to one of them are the log of the job as it stood then. -/
theorem upTo {before : List HistoryRow} {entry : HistoryRow}
    (logged : Logged (before ++ [entry] ++ more) row) :
    Logged (before ++ [entry])
      { row with status := entry.toStatus, statusUpdatedAt := entry.createdAt } := by
  refine ⟨?_, (List.isChain_append.mp logged.follows).1, entry, List.getLast?_concat, rfl, rfl⟩
  obtain ⟨first, begins, opens⟩ := logged.opens
  rw [List.head?_append_of_ne_nil _ (by simp)] at begins
  exact ⟨first, begins, opens⟩

/-- A status that was entered leads to the present one. -/
theorem leads_of_mem (logged : Logged entries row) {entry : HistoryRow} (member : entry ∈ entries)
    {status current : JobStatus} (entered : entry.toStatus = status.name)
    (stands : row.status = current.name) : status.Leads current := by
  obtain ⟨before, after, rfl⟩ := List.append_of_mem member
  rw [List.append_cons] at logged
  obtain ⟨next, same, leads⟩ := logged.upTo.leads logged entered
  rw [JobStatus.name_inj (stands.symm.trans same)]
  exact leads

/-- Outcomes that carry money are entered by settlement. -/
theorem actor_of_settlementOwned (logged : Logged entries row) {entry : HistoryRow}
    (member : entry ∈ entries) {status : JobStatus} (moved : entry.toStatus = status.name)
    (owned : status.isSettlementOwned) : entry.actor = Named.name Actor.settlement := by
  rcases logged.opens_or_follows member with opens | ⟨_, actor, _, next, may, _, _, same, told⟩
  · obtain rfl := JobStatus.name_inj (opens.toStatus.symm.trans moved)
    cases owned
  · obtain rfl := JobStatus.name_inj (same.symm.trans moved)
    rw [told, may.of_settlementOwned owned]

end Logged

end JobRelay
