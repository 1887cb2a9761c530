import JobRelay.Access.RateLimiter
import JobRelay.Proofs.Keyed
import Mathlib.Data.List.Induction
import Mathlib.Data.List.Nodup
import Mathlib.Data.List.TakeWhile

/-! # The rate limit counts admitted requests

The limiter keeps little: times that have left the window are dropped at the next request of their
caller, and idle callers are swept out once many are known. What it answers is nevertheless what
the log of the admitted requests says: a request is admitted exactly if fewer than the greatest
number of requests of its caller were admitted within the window before it. Sweeps, other callers
and refused requests play no part in that.
-/

namespace JobRelay

/-- A request of a caller, with the tick at which it is made. -/
structure RateCall where
  caller : String
  tick : Nat
deriving DecidableEq, Repr

namespace RateLimiter

/-- A way to decide about a request of a caller at a tick. -/
abbrev Decision := RateLimiter → String → Nat → Bool × RateLimiter

/-- Decides about a request without looking at any other caller. -/
def admitUnswept : Decision := fun l caller now =>
  let live := (l.hitsOf caller).dropWhile fun hit => !l.isLive now hit
  if live.length < l.maxPerWindow then (true, l.put caller (live ++ [now]))
  else (false, l.put caller live)

/-- Decides about calls one after the other and tells which are admitted, the first one first. -/
def receive (decision : Decision) (l : RateLimiter) : List RateCall → List RateCall × RateLimiter
  | [] => ([], l)
  | call :: rest =>
    let (admitted, next) := decision l call.caller call.tick
    let (later, last) := next.receive decision rest
    (if admitted then call :: later else later, last)

private theorem tryAdmit_eq (l : RateLimiter) (caller : String) (now : Nat) :
    l.tryAdmit caller now = (l.sweep now).admitUnswept caller now := rfl

private theorem receive_concat (decision : Decision) (l : RateLimiter) (calls : List RateCall)
    (call : RateCall) :
    l.receive decision (calls ++ [call]) =
      ((l.receive decision calls).1 ++
          if (decision (l.receive decision calls).2 call.caller call.tick).1 then [call] else [],
        (decision (l.receive decision calls).2 call.caller call.tick).2) := by
  induction calls generalizing l with
  | nil => exact Prod.ext (List.nil_append _).symm rfl
  | cons first rest ih =>
    simp only [List.cons_append, receive, ih]
    split <;> rfl

/-! ## The log -/

/-- The admitted calls of a caller that lie within a window before a tick. -/
def recentCalls (window : Nat) (caller : String) (now : Nat) (admitted : List RateCall) :
    List RateCall :=
  admitted.filter fun call => call.caller = caller ∧ call.tick ≤ now ∧ now < call.tick + window

/-- The ticks of the calls of a caller. -/
def ticksOf (caller : String) (calls : List RateCall) : List Nat :=
  (calls.filter (·.caller = caller)).map (·.tick)

private theorem ticksOf_append (caller : String) (calls others : List RateCall) :
    ticksOf caller (calls ++ others) = ticksOf caller calls ++ ticksOf caller others := by
  simp [ticksOf]

private theorem pairwise_ticksOf (caller : String) {calls : List RateCall}
    (sorted : calls.Pairwise (·.tick ≤ ·.tick)) : (ticksOf caller calls).Pairwise (· ≤ ·) :=
  List.pairwise_map.mpr (sorted.filter _)

/-! ## The times of one caller -/

/-- In times that do not run backwards the dead ones come first. -/
private theorem dropWhile_dead {l : RateLimiter} {now : Nat} {hits : List Nat}
    (sorted : hits.Pairwise (· ≤ ·)) :
    hits.dropWhile (fun hit => !l.isLive now hit) = hits.filter (l.isLive now) := by
  induction hits with
  | nil => rfl
  | cons hit rest ih =>
    obtain ⟨least, sorted⟩ := List.pairwise_cons.mp sorted
    cases live : l.isLive now hit with
    | false => simp [live, ih sorted]
    | true =>
      have all : ∀ other ∈ rest, l.isLive now other := by
        intro other member
        have later := least other member
        simp only [isLive, decide_eq_true_eq] at live ⊢
        omega
      simp [live, List.filter_eq_self.mpr all]

private theorem hitsOf_of_mem {l : RateLimiter} (keyed : (l.hits.map (·.1)).Nodup)
    {entry : String × List Nat} (member : entry ∈ l.hits) : l.hitsOf entry.1 = entry.2 := by
  rw [hitsOf, find?_of_mem keyed member]
  rfl

private theorem hitsOf_of_absent {l : RateLimiter} {caller : String}
    (absent : ∀ entry ∈ l.hits, entry.1 ≠ caller) : l.hitsOf caller = [] := by
  have none : l.hits.find? (·.1 == caller) = none := by
    rw [List.find?_eq_none]
    intro entry member same
    exact absent entry member (by simpa using same)
  rw [hitsOf, none]
  rfl

private theorem exists_of_mem_hitsOf {l : RateLimiter} {caller : String} {hit : Nat}
    (member : hit ∈ l.hitsOf caller) :
    ∃ entry ∈ l.hits, entry.1 = caller ∧ entry.2 = l.hitsOf caller := by
  cases found : l.hits.find? (·.1 == caller) with
  | none => simp [hitsOf, found] at member
  | some entry =>
    refine ⟨entry, List.mem_of_find?_eq_some found, by simpa using List.find?_some found, ?_⟩
    rw [hitsOf, found]
    rfl

/-- Of a caller either all is kept or nothing. -/
private theorem hitsOf_filter {l : RateLimiter} (keyed : (l.hits.map (·.1)).Nodup)
    (kept : String × List Nat → Bool) (caller : String) :
    { l with hits := l.hits.filter kept }.hitsOf caller = l.hitsOf caller ∨
      { l with hits := l.hits.filter kept }.hitsOf caller = [] ∧
        ∀ entry ∈ l.hits, entry.1 = caller → kept entry = false := by
  by_cases some : ∃ entry ∈ l.hits, entry.1 = caller ∧ kept entry
  · obtain ⟨entry, member, rfl, keep⟩ := some
    have present : entry ∈ { l with hits := l.hits.filter kept }.hits :=
      List.mem_filter.mpr ⟨member, keep⟩
    have fewer : ((l.hits.filter kept).map (·.1)).Nodup := (List.filter_sublist.map _).nodup keyed
    exact .inl ((hitsOf_of_mem fewer present).trans (hitsOf_of_mem keyed member).symm)
  · have none : ∀ entry ∈ l.hits, entry.1 = caller → kept entry = false := by
      intro entry member same
      rw [Bool.eq_false_iff]
      exact fun keep => some ⟨entry, member, same, keep⟩
    refine .inr ⟨hitsOf_of_absent fun entry present same => ?_, none⟩
    obtain ⟨member, keep⟩ := List.mem_filter.mp present
    rw [none entry member same] at keep
    cases keep

private theorem put_eq (l : RateLimiter) (caller : String) (times : List Nat) :
    l.put caller times =
      { l with hits := putUnder (·.1) (caller, times) (fun _ => (caller, times)) l.hits } := by
  unfold put putUnder
  split <;> rfl

private theorem hitsOf_put (l : RateLimiter) (caller : String) (times : List Nat) (other : String) :
    (l.put caller times).hitsOf other = if other = caller then times else l.hitsOf other := by
  rw [put_eq, hitsOf, find?_putUnder fun _ _ => rfl]
  by_cases here : other = caller
  · rw [if_pos here, if_pos here]
    cases l.hits.find? (·.1 == other) <;> rfl
  · rw [if_neg here, if_neg here, hitsOf]

private theorem nodup_put {l : RateLimiter} (keyed : (l.hits.map (·.1)).Nodup) (caller : String)
    (times : List Nat) : ((l.put caller times).hits.map (·.1)).Nodup := by
  rw [put_eq]
  exact nodup_putUnder keyed fun _ _ => rfl

/-! ## What the limiter keeps -/

/-- What a limiter has become by a tick, after some calls were admitted: as it was but for the times
that it keeps. Of each caller these are the last admitted ones, and no other one is alive. -/
structure Keeps (start : RateLimiter) (admitted : List RateCall) (now : Nat) (l : RateLimiter) :
    Prop where
  frame : l = { start with hits := l.hits }
  keyed : (l.hits.map (·.1)).Nodup
  ordered : admitted.Pairwise (·.tick ≤ ·.tick)
  past : ∀ call ∈ admitted, call.tick ≤ now
  rest : ∀ caller, ∃ dead, ticksOf caller admitted = dead ++ l.hitsOf caller ∧
    ∀ hit ∈ dead, start.isLive now hit = false

namespace Keeps

variable {start l : RateLimiter} {admitted : List RateCall} {now : Nat}

private theorem empty (start : RateLimiter) (none : start.hits = []) : Keeps start [] 0 start where
  frame := rfl
  keyed := by rw [none]; exact .nil
  ordered := .nil
  past := nofun
  rest caller := ⟨[], by rw [hitsOf_of_absent (by simp [none])]; rfl, nofun⟩

/-- What is dead stays dead. -/
private theorem later (keeps : Keeps start admitted now l) {tick : Nat} (le : now ≤ tick) :
    Keeps start admitted tick l where
  frame := keeps.frame
  keyed := keeps.keyed
  ordered := keeps.ordered
  past call member := Nat.le_trans (keeps.past call member) le
  rest caller := by
    obtain ⟨dead, split, gone⟩ := keeps.rest caller
    refine ⟨dead, split, fun hit member => ?_⟩
    have before := gone hit member
    simp only [isLive, decide_eq_false_iff_not] at before ⊢
    omega

private theorem isLive_eq (keeps : Keeps start admitted now l) (tick hit : Nat) :
    l.isLive tick hit = start.isLive tick hit := by
  rw [keeps.frame]
  rfl

/-- The times kept of a caller do not run backwards. -/
private theorem sorted (keeps : Keeps start admitted now l) (caller : String) :
    (l.hitsOf caller).Pairwise (· ≤ ·) := by
  obtain ⟨dead, split, _⟩ := keeps.rest caller
  have all := pairwise_ticksOf caller keeps.ordered
  rw [split] at all
  exact (List.pairwise_append.mp all).2.1

/-- The live times of a caller are those of the admitted calls in the window. -/
private theorem filter_hitsOf (keeps : Keeps start admitted now l) (caller : String) :
    (l.hitsOf caller).filter (l.isLive now) =
      (recentCalls start.window caller now admitted).map (·.tick) := by
  obtain ⟨dead, split, gone⟩ := keeps.rest caller
  have none : dead.filter (start.isLive now) = [] := by
    rw [List.filter_eq_nil_iff]
    intro hit member live
    rw [gone hit member] at live
    cases live
  calc
    (l.hitsOf caller).filter (l.isLive now)
    _ = (ticksOf caller admitted).filter (start.isLive now) := by
      rw [split, List.filter_append, none, List.nil_append]
      exact List.filter_congr fun hit _ => keeps.isLive_eq now hit
    _ = (recentCalls start.window caller now admitted).map (·.tick) := by
      rw [ticksOf, List.filter_map, recentCalls, List.filter_filter]
      congr 1
      apply List.filter_congr
      intro call member
      have before := keeps.past call member
      have inWindow : now - call.tick < start.window ↔
          call.tick ≤ now ∧ now < call.tick + start.window := by omega
      rw [Bool.eq_iff_iff]
      simp only [Function.comp_apply, isLive, Bool.and_eq_true, decide_eq_true_eq, inWindow]
      exact and_comm

/-- A caller all of whose entries end dead has no time that is alive. -/
private theorem dead_of_last (keeps : Keeps start admitted now l) {caller : String}
    (idle : ∀ entry ∈ l.hits, entry.1 = caller → entry.2.getLast?.any (l.isLive now) = false)
    {hit : Nat} (member : hit ∈ l.hitsOf caller) : start.isLive now hit = false := by
  obtain ⟨entry, present, same, times⟩ := exists_of_mem_hitsOf member
  have sorted := keeps.sorted caller
  have final := idle entry present same
  rw [← times] at sorted member
  rcases List.eq_nil_or_concat' entry.2 with none | ⟨earlier, last, whole⟩
  · rw [none] at member
    cases member
  · rw [whole, List.getLast?_concat, Option.any_some, keeps.isLive_eq] at final
    have least : hit ≤ last := by
      rw [whole] at sorted member
      rcases List.mem_append.mp member with old | new
      · exact (List.pairwise_append.mp sorted).2.2 hit old last (List.mem_singleton_self last)
      · exact Nat.le_of_eq (List.mem_singleton.mp new)
    simp only [isLive, decide_eq_false_iff_not] at final ⊢
    omega

/-- A sweep forgets no time that is alive. -/
theorem sweep (keeps : Keeps start admitted now l) : Keeps start admitted now (l.sweep now) := by
  unfold RateLimiter.sweep
  split
  · refine ⟨?_, ?_, keeps.ordered, keeps.past, fun caller => ?_⟩
    · rw [keeps.frame]
    · exact (List.filter_sublist.map _).nodup keeps.keyed
    · obtain ⟨dead, split, gone⟩ := keeps.rest caller
      rcases hitsOf_filter keeps.keyed (fun entry => entry.2.getLast?.any (l.isLive now)) caller with
        kept | ⟨forgotten, idle⟩
      · exact ⟨dead, by rw [kept, split], gone⟩
      · refine ⟨ticksOf caller admitted, by rw [forgotten, List.append_nil], fun hit member => ?_⟩
        rw [split] at member
        rcases List.mem_append.mp member with old | idling
        · exact gone hit old
        · exact keeps.dead_of_last idle idling
  · exact keeps

end Keeps

/-! ## One decision -/

/-- What the log of the admitted calls says of a call. -/
def logVerdict (start : RateLimiter) (admitted : List RateCall) (call : RateCall) : Bool :=
  (recentCalls start.window call.caller call.tick admitted).length < start.maxPerWindow

/-- A decision follows the log, and keeps what the log says that it has to. -/
def Decision.Exact (decision : Decision) : Prop :=
  ∀ {start l : RateLimiter} {admitted : List RateCall} (call : RateCall),
    Keeps start admitted call.tick l →
      (decision l call.caller call.tick).1 = start.logVerdict admitted call ∧
        Keeps start (admitted ++ if start.logVerdict admitted call then [call] else []) call.tick
          (decision l call.caller call.tick).2

/-- The times of a caller are replaced by those that are alive, and those of a new admitted call. -/
private theorem Keeps.put {start l : RateLimiter} {admitted : List RateCall} {call : RateCall}
    (keeps : Keeps start admitted call.tick l) (new : Bool) :
    Keeps start (admitted ++ if new then [call] else []) call.tick
      (l.put call.caller ((l.hitsOf call.caller).filter (l.isLive call.tick) ++
        if new then [call.tick] else [])) where
  frame := by
    rw [keeps.frame]
    unfold RateLimiter.put
    split <;> rfl
  keyed := nodup_put keeps.keyed _ _
  ordered := by
    refine List.pairwise_append.mpr ⟨keeps.ordered, by cases new <;> simp, ?_⟩
    intro other member last added
    cases new with
    | false => cases added
    | true =>
      obtain rfl := List.mem_singleton.mp added
      exact keeps.past other member
  past := by
    intro other member
    rcases List.mem_append.mp member with old | added
    · exact keeps.past other old
    · cases new with
      | false => cases added
      | true => exact Nat.le_of_eq (congrArg _ (List.mem_singleton.mp added))
  rest caller := by
    obtain ⟨dead, split, gone⟩ := keeps.rest caller
    rw [hitsOf_put, ticksOf_append, split]
    by_cases same : caller = call.caller
    · subst same
      have added : ticksOf call.caller (if new then [call] else []) =
          if new then [call.tick] else [] := by
        cases new <;> simp [ticksOf]
      have dropped := List.takeWhile_append_dropWhile
        (p := fun hit => !l.isLive call.tick hit) (l := l.hitsOf call.caller)
      rw [dropWhile_dead (keeps.sorted call.caller)] at dropped
      refine ⟨dead ++ (l.hitsOf call.caller).takeWhile fun hit => !l.isLive call.tick hit, ?_, ?_⟩
      · rw [if_pos rfl, added, List.append_assoc dead (List.takeWhile _ _),
          ← List.append_assoc (List.takeWhile _ _), dropped, List.append_assoc]
      · intro hit member
        rcases List.mem_append.mp member with old | expired
        · exact gone hit old
        · have past := List.mem_takeWhile_imp expired
          rw [keeps.isLive_eq] at past
          simpa using past
    · have none : ticksOf caller (if new then [call] else []) = [] := by
        cases new <;> simp [ticksOf, Ne.symm same]
      exact ⟨dead, by rw [if_neg same, none, List.append_nil], gone⟩

private theorem exact_admitUnswept : Decision.Exact admitUnswept := by
  intro start l admitted call keeps
  have live : (l.hitsOf call.caller).dropWhile (fun hit => !l.isLive call.tick hit) =
      (l.hitsOf call.caller).filter (l.isLive call.tick) := dropWhile_dead (keeps.sorted call.caller)
  have size : ((l.hitsOf call.caller).filter (l.isLive call.tick)).length =
      (recentCalls start.window call.caller call.tick admitted).length := by
    rw [keeps.filter_hitsOf, List.length_map]
  have most : l.maxPerWindow = start.maxPerWindow := by rw [keeps.frame]
  have next := keeps.put (start.logVerdict admitted call)
  simp only [admitUnswept, live, size, most]
  cases verdict : start.logVerdict admitted call with
  | true =>
    rw [verdict] at next
    rw [if_pos (of_decide_eq_true verdict)]
    exact ⟨rfl, next⟩
  | false =>
    rw [verdict] at next
    rw [if_neg (of_decide_eq_false verdict)]
    exact ⟨rfl, by simpa using next⟩

/-- What a sweep forgets would not have counted. -/
theorem exact_tryAdmit : Decision.Exact tryAdmit := by
  intro start l admitted call keeps
  rw [tryAdmit_eq]
  exact exact_admitUnswept call keeps.sweep

/-! ## The log alone -/

/-- Adds a call to the log if the log admits it. -/
def admitByLog (start : RateLimiter) (admitted : List RateCall) (call : RateCall) :
    List RateCall :=
  admitted ++ if start.logVerdict admitted call then [call] else []

/-- The calls admitted when nothing but the log is kept. -/
def admittedByLog (start : RateLimiter) (calls : List RateCall) : List RateCall :=
  calls.foldl start.admitByLog []

variable {start : RateLimiter} {calls : List RateCall} {call : RateCall}

theorem admittedByLog_concat (start : RateLimiter) (calls : List RateCall) (call : RateCall) :
    start.admittedByLog (calls ++ [call]) = start.admittedByLog calls ++
      if start.logVerdict (start.admittedByLog calls) call then [call] else [] := by
  rw [admittedByLog, List.foldl_concat]
  rfl

private theorem mem_of_mem_admittedByLog {other : RateCall}
    (member : other ∈ start.admittedByLog calls) : other ∈ calls := by
  induction calls using List.reverseRecOn with
  | nil => cases member
  | append_singleton calls call ih =>
    rw [admittedByLog_concat] at member
    rcases List.mem_append.mp member with old | added
    · exact List.mem_append_left _ (ih old)
    · split at added
      · exact List.mem_append_right _ added
      · cases added

/-- A refused call leaves the log as it was, so that nothing later differs. -/
theorem admittedByLog_without {before rest : List RateCall} {refused : RateCall}
    (rejected : start.logVerdict (start.admittedByLog before) refused = false) :
    start.admittedByLog (before ++ refused :: rest) = start.admittedByLog (before ++ rest) := by
  have unchanged : start.admitByLog (start.admittedByLog before) refused =
      start.admittedByLog before := by
    rw [admitByLog, rejected]
    exact List.append_nil _
  calc
    start.admittedByLog (before ++ refused :: rest)
    _ = rest.foldl start.admitByLog (start.admitByLog (start.admittedByLog before) refused) := by
      rw [admittedByLog, List.foldl_append, List.foldl_cons, admittedByLog]
    _ = start.admittedByLog (before ++ rest) := by
      rw [unchanged, admittedByLog, admittedByLog, List.foldl_append]

/-- The log of one caller decides about its calls. -/
private theorem logVerdict_filter (start : RateLimiter) (admitted : List RateCall)
    (call : RateCall) :
    start.logVerdict (admitted.filter (·.caller = call.caller)) call =
      start.logVerdict admitted call := by
  have same : recentCalls start.window call.caller call.tick
      (admitted.filter (·.caller = call.caller)) =
        recentCalls start.window call.caller call.tick admitted := by
    rw [recentCalls, List.filter_filter]
    apply List.filter_congr
    intro other _
    grind
  rw [logVerdict, same, logVerdict]

/-- The calls of one caller are admitted as if there were no others. -/
theorem admittedByLog_filter (start : RateLimiter) (calls : List RateCall) (own : String) :
    start.admittedByLog (calls.filter (·.caller = own)) =
      (start.admittedByLog calls).filter (·.caller = own) := by
  induction calls using List.reverseRecOn with
  | nil => rfl
  | append_singleton calls call ih =>
    rw [List.filter_append, admittedByLog_concat, List.filter_append, ← ih]
    by_cases mine : call.caller = own
    · subst mine
      have single : [call].filter (·.caller = call.caller) = [call] := by simp
      rw [single, admittedByLog_concat, ih, logVerdict_filter]
      split <;> simp
    · have none : [call].filter (·.caller = own) = [] := by simp [mine]
      rw [none, List.append_nil]
      split <;> simp [mine]

/-- The log never admits too many calls of a caller within one window. -/
theorem length_within_le (sorted : calls.Pairwise (·.tick ≤ ·.tick)) (caller : String)
    (first : Nat) :
    ((start.admittedByLog calls).filter fun call =>
      call.caller = caller ∧ first ≤ call.tick ∧ call.tick < first + start.window).length ≤
        start.maxPerWindow := by
  induction calls using List.reverseRecOn with
  | nil => exact Nat.zero_le _
  | append_singleton calls call ih =>
    obtain ⟨earlier, _, last⟩ := List.pairwise_append.mp sorted
    have before := ih earlier
    rw [admittedByLog_concat, List.filter_append, List.length_append]
    by_cases counts : start.logVerdict (start.admittedByLog calls) call ∧
      call.caller = caller ∧ first ≤ call.tick ∧ call.tick < first + start.window
    · obtain ⟨admitted, rfl, least, most⟩ := counts
      -- The calls counted so far were all made within the window before this one.
      have within : ((start.admittedByLog calls).filter fun other =>
          other.caller = call.caller ∧ first ≤ other.tick ∧ other.tick < first + start.window).length
            ≤ (recentCalls start.window call.caller call.tick (start.admittedByLog calls)).length := by
        rw [recentCalls, ← List.countP_eq_length_filter, ← List.countP_eq_length_filter]
        apply List.countP_mono_left
        intro other member inside
        have past := last other (mem_of_mem_admittedByLog member) call (List.mem_singleton_self call)
        obtain ⟨same, least, _⟩ := of_decide_eq_true inside
        exact decide_eq_true ⟨same, past, by omega⟩
      have room : (recentCalls start.window call.caller call.tick
          (start.admittedByLog calls)).length < start.maxPerWindow := of_decide_eq_true admitted
      have one := List.length_filter_le (fun other : RateCall =>
        decide (other.caller = call.caller ∧ first ≤ other.tick ∧ other.tick < first + start.window))
        (if start.logVerdict (start.admittedByLog calls) call then [call] else [])
      rw [if_pos admitted, List.length_singleton] at one
      rw [if_pos admitted]
      omega
    · have none : (if start.logVerdict (start.admittedByLog calls) call then [call] else []).filter
          (fun other => decide (other.caller = caller ∧ first ≤ other.tick ∧
            other.tick < first + start.window)) = [] := by
        split
        · rename_i admitted
          simpa using fun same least most => counts ⟨admitted, same, least, most⟩
        · rfl
      rw [none]
      exact before

/-! ## Every run -/

/-- A limiter that decides exactly admits what the log admits, and keeps what the log needs. -/
theorem Decision.Exact.receive {decision : Decision} (exact : decision.Exact)
    (empty : start.hits = []) (sorted : calls.Pairwise (·.tick ≤ ·.tick)) :
    (start.receive decision calls).1 = start.admittedByLog calls ∧
      ∀ now, (∀ call ∈ calls, call.tick ≤ now) →
        Keeps start (start.admittedByLog calls) now (start.receive decision calls).2 := by
  induction calls using List.reverseRecOn with
  | nil => exact ⟨rfl, fun now _ => (Keeps.empty start empty).later (Nat.zero_le now)⟩
  | append_singleton calls call ih =>
    obtain ⟨earlier, _, last⟩ := List.pairwise_append.mp sorted
    obtain ⟨log, keeps⟩ := ih earlier
    obtain ⟨verdict, next⟩ := exact call (keeps call.tick fun other member =>
      last other member call (List.mem_singleton_self call))
    rw [receive_concat, admittedByLog_concat, log, verdict]
    exact ⟨rfl, fun now past =>
      next.later (past call (List.mem_append_right _ (List.mem_singleton_self call)))⟩

/-- The next call is decided as the log says. -/
theorem Decision.Exact.verdict_eq {decision : Decision} (exact : decision.Exact)
    (empty : start.hits = []) (sorted : (calls ++ [call]).Pairwise (·.tick ≤ ·.tick)) :
    (decision (start.receive decision calls).2 call.caller call.tick).1 =
      start.logVerdict (start.admittedByLog calls) call := by
  obtain ⟨earlier, _, last⟩ := List.pairwise_append.mp sorted
  exact (exact call ((exact.receive empty earlier).2 call.tick fun other member =>
    last other member call (List.mem_singleton_self call))).1

/-- What is promised of a limiter over every run of requests whose ticks do not run backwards. -/
structure ExactLimit (start : RateLimiter) : Prop where
  /-- A request is admitted if and only if fewer than the greatest number of requests of its caller
  were admitted within the window before it. -/
  verdict : ∀ (calls : List RateCall) (call : RateCall),
    (calls ++ [call]).Pairwise (·.tick ≤ ·.tick) →
    ((start.receive tryAdmit calls).2.tryAdmit call.caller call.tick).1 =
      decide ((recentCalls start.window call.caller call.tick
        (start.receive tryAdmit calls).1).length < start.maxPerWindow)
  /-- No window, wherever it starts, has more admitted requests of one caller than that. -/
  bounded : ∀ calls : List RateCall, calls.Pairwise (·.tick ≤ ·.tick) →
    ∀ (caller : String) (first : Nat),
      ((start.receive tryAdmit calls).1.filter fun call =>
        call.caller = caller ∧ first ≤ call.tick ∧ call.tick < first + start.window).length ≤
          start.maxPerWindow
  /-- A refused request might as well not have been made. -/
  unheard : ∀ (before rest : List RateCall) (refused : RateCall),
    (before ++ refused :: rest).Pairwise (·.tick ≤ ·.tick) →
    ((start.receive tryAdmit before).2.tryAdmit refused.caller refused.tick).1 = false →
    (start.receive tryAdmit (before ++ refused :: rest)).1 =
      (start.receive tryAdmit (before ++ rest)).1
  /-- The requests of one caller fare as if there were no others. -/
  apart : ∀ calls : List RateCall, calls.Pairwise (·.tick ≤ ·.tick) → ∀ own : String,
    (start.receive tryAdmit (calls.filter (·.caller = own))).1 =
      (start.receive tryAdmit calls).1.filter (·.caller = own)
  /-- Nothing is decided otherwise because idle callers were swept out. -/
  unswept : ∀ calls : List RateCall, calls.Pairwise (·.tick ≤ ·.tick) →
    (start.receive tryAdmit calls).1 = (start.receive admitUnswept calls).1
  /-- The number told for a caller is that of its admitted requests in the window. -/
  count : ∀ calls : List RateCall, calls.Pairwise (·.tick ≤ ·.tick) →
    ∀ (caller : String) (now : Nat), (∀ call ∈ calls, call.tick ≤ now) →
      (start.receive tryAdmit calls).2.count caller now =
        (recentCalls start.window caller now (start.receive tryAdmit calls).1).length

/-- Every new limiter is exact from the first request on. -/
theorem exactLimit_new (maxPerWindow window : Nat) : ExactLimit { maxPerWindow, window } where
  verdict calls call sorted := by
    rw [exact_tryAdmit.verdict_eq rfl sorted,
      (exact_tryAdmit.receive rfl (List.pairwise_append.mp sorted).1).1]
    rfl
  bounded calls sorted caller first := by
    rw [(exact_tryAdmit.receive rfl sorted).1]
    exact length_within_le sorted caller first
  unheard before rest refused sorted rejected := by
    have fewer := sorted.sublist ((List.sublist_cons_self refused rest).append_left before)
    have upTo : (before ++ [refused]).Pairwise (·.tick ≤ ·.tick) :=
      sorted.sublist (List.Sublist.append_left (by simp) before)
    rw [exact_tryAdmit.verdict_eq rfl upTo] at rejected
    rw [(exact_tryAdmit.receive rfl sorted).1, (exact_tryAdmit.receive rfl fewer).1,
      admittedByLog_without rejected]
  apart calls sorted own := by
    rw [(exact_tryAdmit.receive rfl sorted).1, (exact_tryAdmit.receive rfl (sorted.filter _)).1,
      admittedByLog_filter]
  unswept calls sorted := by
    rw [(exact_tryAdmit.receive rfl sorted).1, (exact_admitUnswept.receive rfl sorted).1]
  count calls sorted caller now past := by
    have empty : ({ maxPerWindow, window } : RateLimiter).hits = [] := rfl
    obtain ⟨log, keeps⟩ := exact_tryAdmit.receive empty sorted
    rw [log, RateLimiter.count, (keeps now past).filter_hitsOf, List.length_map]

/-- A request that is a whole window old no longer counts. -/
example : (receive tryAdmit { maxPerWindow := 1, window := 10 }
    [⟨"a", 0⟩, ⟨"b", 5⟩, ⟨"a", 9⟩, ⟨"a", 10⟩]).1 = [⟨"a", 0⟩, ⟨"b", 5⟩, ⟨"a", 10⟩] := by
  decide

end RateLimiter

end JobRelay
