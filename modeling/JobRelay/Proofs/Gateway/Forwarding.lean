import JobRelay.Proofs.Gateway.Counted

/-! # Forwarded requests are counted

A trusted proxy adds the address of its client to the forwarding lines of a request, behind the last
hop of the last line or on a line of its own. A request with one line, which can be read, is counted
for that address whatever the client wrote before it. With more lines, or with a line that cannot be
read, the address plays no part: the client is counted for what it sent itself.
-/

namespace JobRelay

/-- The values of the lines of a request that bear a header's name, in their order. -/
def Request.lines (r : Request) (name : String) : List String :=
  (r.headers.filter fun header => Request.sameName header.1 name).map (·.2)

private theorem Request.header?_eq (r : Request) (name : String) :
    r.header? name = (r.lines name).head?.filter isVisible := by
  rw [header?, lines, List.head?_map, List.head?_filter]

/-- Whether a character may stand in an address. -/
def isHopChar (c : Char) : Bool := 32 < c.toNat && c.toNat < 127 && c != ','

/-- Whether a character may stand between two hops, beside the comma. -/
def isGapChar (c : Char) : Bool := c == ' ' || c == '\t'

/-- An address as proxies write it: visible characters, none of them a blank or a comma. -/
structure IsHop (address : String) : Prop where
  nonempty : address ≠ ""
  solid : address.toList.all isHopChar

/-- The lines that a proxy makes of those it finds: it writes an address behind the last line, after
a comma and perhaps some blanks, or on a line of its own. -/
inductive Appends (address : String) : List String → List String → Prop where
  | onLine (earlier : List String) (line gap : String) (blank : gap.toList.all isGapChar) :
      Appends address (earlier ++ [line]) (earlier ++ [line ++ "," ++ gap ++ address])
  | ownLine (lines : List String) : Appends address lines (lines ++ [address])

/-- A request as it was sent and as it arrives from a proxy that has added the address of its
client. -/
def PassedOn (address : String) (sent arrived : Request) : Prop :=
  Appends address (sent.lines "X-Forwarded-For") (arrived.lines "X-Forwarded-For")

/-- There is one forwarding line, and it can be read. -/
def OneReadableLine (arrived : Request) : Prop :=
  ∃ line, arrived.lines "X-Forwarded-For" = [line] ∧ Request.isVisible line

/-! ## Characters -/

private theorem isBlank_of_isHopChar {c : Char} (hop : isHopChar c) : Text.isBlank c = false := by
  simp only [isHopChar, Bool.and_eq_true, decide_eq_true_eq] at hop
  simp only [Text.isBlank, Bool.or_eq_false_iff, Bool.and_eq_false_iff, decide_eq_false_iff_not,
    beq_eq_false_iff_ne]
  omega

private theorem ne_comma_of_isHopChar {c : Char} (hop : isHopChar c) : c ≠ ',' := by
  simp only [isHopChar, Bool.and_eq_true, bne_iff_ne] at hop
  exact hop.2

/-- What holds of a blank and of a tab holds of all characters of a gap. -/
private theorem forall_mem_gap {P : Char → Prop} (space : P ' ') (tab : P '\t') {gap : List Char}
    (blank : gap.all isGapChar) : ∀ c ∈ gap, P c := by
  intro c member
  have char := List.all_eq_true.mp blank c member
  simp only [isGapChar, Bool.or_eq_true, beq_iff_eq] at char
  rcases char with rfl | rfl
  · exact space
  · exact tab

private theorem isVisible_of_isGapChar {gap : String} (blank : gap.toList.all isGapChar) :
    Request.isVisible gap :=
  List.all_eq_true.mpr (forall_mem_gap (by decide) (by decide) blank)

private theorem isVisible_append (a b : String) :
    Request.isVisible (a ++ b) = (Request.isVisible a && Request.isVisible b) := by
  rw [Request.isVisible, String.toList_append, List.all_append]
  rfl

/-- What follows the last comma is what is taken from behind up to a comma. -/
private theorem reverse_takeWhile_ne_comma {front back : List Char}
    (ends : ∀ c ∈ front.getLast?, c = ',') (free : ∀ c ∈ back, c ≠ ',') :
    ((front ++ back).reverse.takeWhile (· != ',')).reverse = back := by
  have all : ∀ c ∈ back.reverse, c != ',' := fun c member =>
    bne_iff_ne.mpr (free c (List.mem_reverse.mp member))
  rw [List.reverse_append, List.takeWhile_append_of_pos all]
  rcases List.eq_nil_or_concat' front with none | ⟨before, c, whole⟩
  · rw [none, List.reverse_nil, List.takeWhile_nil, List.append_nil, List.reverse_reverse]
  · obtain rfl : c = ',' := ends c (by rw [whole, List.getLast?_concat]; rfl)
    rw [whole, List.reverse_concat, List.takeWhile_cons]
    simp

namespace IsHop

variable {address : String}

private theorem isHopChar_of_mem (hop : IsHop address) {c : Char} (member : c ∈ address.toList) :
    isHopChar c :=
  List.all_eq_true.mp hop.solid c member

private theorem isVisible (hop : IsHop address) : Request.isVisible address := by
  rw [Request.isVisible, List.all_eq_true]
  intro c member
  have char := hop.isHopChar_of_mem member
  simp only [isHopChar, Bool.and_eq_true, decide_eq_true_eq] at char
  simp only [Bool.or_eq_true, Bool.and_eq_true, decide_eq_true_eq]
  omega

/-- Blanks before an address are trimmed away, and it alone is left. -/
private theorem nonBlank?_eq (hop : IsHop address) {gap : List Char} (blank : gap.all isGapChar) :
    Text.nonBlank? (String.ofList (gap ++ address.toList)) = some address := by
  have around : ∀ c ∈ gap ++ [], Text.isBlank c := by
    rw [List.append_nil]
    exact forall_mem_gap (by decide) (by decide) blank
  have dense : ∀ c ∈ address.toList, Text.isBlank c = false := fun c member =>
    isBlank_of_isHopChar (hop.isHopChar_of_mem member)
  have chars : (String.ofList (gap ++ address.toList)).toList = gap ++ address.toList ++ [] := by
    rw [String.toList_ofList, List.append_nil]
  have trimmed : Text.trim (String.ofList (gap ++ address.toList)) = address :=
    String.toList_inj.mp (Text.trim_of_solid chars around dense)
  rw [Text.nonBlank?_eq_some_iff, trimmed]
  exact ⟨hop.nonempty, rfl⟩

/-- The address is the last hop of a line on which it comes last. -/
theorem forwardedHop?_eq (hop : IsHop address) {r : Request} {line : String}
    (read : r.header? "X-Forwarded-For" = some line) (front gap : List Char)
    (ends : ∀ c ∈ front.getLast?, c = ',') (blank : gap.all isGapChar)
    (chars : line.toList = front ++ (gap ++ address.toList)) :
    Gateway.forwardedHop? r = some address := by
  have free : ∀ c ∈ gap ++ address.toList, c ≠ ',' :=
    List.forall_mem_append.mpr ⟨forall_mem_gap (by decide) (by decide) blank,
      fun c member => ne_comma_of_isHopChar (hop.isHopChar_of_mem member)⟩
  have last := reverse_takeWhile_ne_comma ends free
  rw [← chars] at last
  rw [Gateway.forwardedHop?, read]
  simp only [Option.bind_eq_bind, Option.bind_some, last]
  exact hop.nonBlank?_eq blank

end IsHop

/-! ## What decides about the caller -/

variable {address : String} {sent arrived : Request}

private theorem callerKey_congr (trust : Bool) {r other : Request}
    (forwarding : r.header? "X-Forwarded-For" = other.header? "X-Forwarded-For")
    (peer : r.peer = other.peer) : Gateway.callerKey trust r = Gateway.callerKey trust other := by
  rw [Gateway.callerKey, Gateway.forwardedHop?, forwarding, peer]
  rfl

private theorem callerKey_of_forwardedHop? {r : Request} {hop : String}
    (found : Gateway.forwardedHop? r = some hop) : Gateway.callerKey true r = hop := by
  rw [Gateway.callerKey, found]
  rfl

/-- The address comes onto the one line, or a line stands before it that the client has sent. -/
private theorem Appends.cases_line {before after : List String}
    (appends : Appends address before after) :
    (before = [] ∧ after = [address]) ∨
      (∃ line gap, before = [line] ∧ after = [line ++ "," ++ gap ++ address] ∧
        gap.toList.all isGapChar) ∨
      (after.head? = before.head? ∧ 1 < after.length) := by
  cases appends with
  | onLine earlier line gap blank =>
    cases earlier with
    | nil => exact .inr (.inl ⟨line, gap, rfl, rfl, blank⟩)
    | cons first rest => exact .inr (.inr ⟨rfl, by simp⟩)
  | ownLine =>
    cases before with
    | nil => exact .inl ⟨rfl, rfl⟩
    | cons first rest => exact .inr (.inr ⟨rfl, by simp⟩)

/-- On one line that can be read the address comes last, and it is the caller. -/
theorem PassedOn.callerKey_eq (passed : PassedOn address sent arrived) (hop : IsHop address)
    (single : OneReadableLine arrived) : Gateway.callerKey true arrived = address := by
  obtain ⟨line, only, readable⟩ := single
  have read : arrived.header? "X-Forwarded-For" = some line := by
    rw [Request.header?_eq, only, List.head?_cons, Option.filter_some, if_pos readable]
  apply callerKey_of_forwardedHop?
  rcases Appends.cases_line passed with ⟨-, alone⟩ | ⟨before, gap, -, behind, blank⟩ | ⟨-, more⟩
  · obtain rfl : line = address := List.singleton_inj.mp (only.symm.trans alone)
    exact hop.forwardedHop?_eq read [] [] nofun rfl rfl
  · obtain rfl : line = before ++ "," ++ gap ++ address :=
      List.singleton_inj.mp (only.symm.trans behind)
    refine hop.forwardedHop?_eq read (before.toList ++ [',']) gap.toList ?_ blank ?_
    · simp
    · simp [String.toList_append]
  · rw [only] at more
    exact absurd more (Nat.lt_irrefl 1)

/-- With more lines, or a line that cannot be read, the caller is the one that the client would be
if it had come without the proxy's line, from the proxy's place. -/
theorem PassedOn.callerKey_of_unreadable (passed : PassedOn address sent arrived) (hop : IsHop address)
    (several : ¬OneReadableLine arrived) :
    Gateway.callerKey true arrived = Gateway.callerKey true { sent with peer := arrived.peer } := by
  have same : arrived.header? "X-Forwarded-For" = sent.header? "X-Forwarded-For" := by
    rw [Request.header?_eq, Request.header?_eq]
    rcases Appends.cases_line passed with ⟨-, alone⟩ | ⟨line, gap, only, behind, blank⟩ | ⟨first, -⟩
    · exact absurd ⟨address, alone, hop.isVisible⟩ several
    · have comma : Request.isVisible "," := rfl
      have read : Request.isVisible (line ++ "," ++ gap ++ address) = Request.isVisible line := by
        simp [isVisible_append, comma, isVisible_of_isGapChar blank, hop.isVisible]
      have unread : ¬Request.isVisible line := fun readable =>
        several ⟨_, behind, read.trans readable⟩
      rw [behind, only, List.head?_cons, List.head?_cons, Option.filter_some, Option.filter_some,
        read, if_neg unread, if_neg unread]
    · rw [first]
  exact callerKey_congr true same rfl

/-! ## The lines of a client's own choice -/

/-- A request for jobs with forwarding lines. -/
def forwardedRequest (lines : List String) (peer : Option IpAddress) : Request :=
  { method := "GET"
    target := "/agent/jobs/pending"
    headers := lines.map fun line => ("X-Forwarded-For", line)
    peer }

private theorem lines_forwardedRequest (lines : List String) (peer : Option IpAddress) :
    (forwardedRequest lines peer).lines "X-Forwarded-For" = lines := by
  have all : (forwardedRequest lines peer).headers.filter
      (fun header => Request.sameName header.1 "X-Forwarded-For") =
        (forwardedRequest lines peer).headers := by
    rw [List.filter_eq_self]
    intro header member
    obtain ⟨line, -, rfl⟩ := List.mem_map.mp member
    exact beq_self_eq_true _
  rw [Request.lines, all, forwardedRequest, List.map_map]
  exact List.map_id lines

private theorem isAgentPath_forwardedRequest (lines : List String) (peer : Option IpAddress) :
    Gateway.isAgentPath (forwardedRequest lines peer).path := by
  have target : Gateway.isAgentPath (forwardedRequest [] none).path := by decide +kernel
  exact target

/-- A proxy adds a line behind that of the client. -/
theorem passedOn_ownLine (address own : String) (peer : Option IpAddress) :
    PassedOn address (forwardedRequest [own] peer) (forwardedRequest [own, address] peer) := by
  rw [PassedOn, lines_forwardedRequest, lines_forwardedRequest]
  exact .ownLine [own]

/-- A proxy adds a hop to the line of the client. -/
theorem passedOn_onLine (address own gap : String) (peer : Option IpAddress)
    (blank : gap.toList.all isGapChar) :
    PassedOn address (forwardedRequest [own] peer)
      (forwardedRequest [own ++ "," ++ gap ++ address] peer) := by
  rw [PassedOn, lines_forwardedRequest, lines_forwardedRequest]
  exact .onLine [] own gap blank

/-- What the client writes on its line is what it is counted for. -/
private theorem callerKey_forwardedRequest {own : String} (hop : IsHop own) (later : List String)
    (peer : Option IpAddress) :
    Gateway.callerKey true (forwardedRequest (own :: later) peer) = own := by
  have read : (forwardedRequest (own :: later) peer).header? "X-Forwarded-For" = some own := by
    rw [Request.header?_eq, lines_forwardedRequest, List.head?_cons, Option.filter_some,
      if_pos hop.isVisible]
  exact callerKey_of_forwardedHop? (hop.forwardedHop?_eq read [] [] nofun rfl rfl)

private theorem isHop_digits (n : Nat) : IsHop (String.ofList (Text.digits n)) where
  nonempty := by
    intro none
    have length := Text.length_digits_pos n
    rw [String.ofList_eq_empty_iff.mp none] at length
    exact Nat.lt_irrefl 0 length
  solid := by
    rw [String.toList_ofList, List.all_eq_true]
    intro c member
    obtain ⟨least, most⟩ := Char.isDigit_iff_toNat.mp (Text.isDigit_of_mem_digits member)
    have other : c ≠ ',' := by
      rintro rfl
      exact absurd least (by decide)
    have zero : '0'.toNat = 48 := rfl
    have nine : '9'.toNat = 57 := rfl
    simp only [isHopChar, Bool.and_eq_true, decide_eq_true_eq, bne_iff_ne]
    exact ⟨⟨by omega, by omega⟩, other⟩

private theorem digits_injective : Function.Injective fun n => String.ofList (Text.digits n) := by
  intro m n same
  have digits : Text.digits m = Text.digits n := String.ofList_inj.mp same
  have value := Text.natural?_digits m
  rw [digits, Text.natural?_digits] at value
  exact (Option.some.inj value).symm

namespace Gateway

/-- What is promised of the requests of a client behind a trusted proxy that adds its address. -/
structure CountsForwarded (g : Gateway) (address : String) : Prop where
  /-- With one forwarding line that can be read, the client is counted for its address. -/
  told : ∀ sent arrived, PassedOn address sent arrived → OneReadableLine arrived →
    callerKey g.config.gateway.trustForwardedFor arrived = address
  /-- Otherwise its address plays no part. -/
  untold : ∀ sent arrived, PassedOn address sent arrived → ¬OneReadableLine arrived →
    callerKey g.config.gateway.trustForwardedFor arrived =
      callerKey g.config.gateway.trustForwardedFor { sent with peer := arrived.peer }
  /-- Among all requests that are handled, no window has more admitted requests of the client with
  one such line than the settings allow. -/
  bounded : ∀ arrivals own : List Arrival, arrivals.Pairwise (·.tick ≤ ·.tick) →
    own.Sublist (g.admitted arrivals) → ∀ first,
    (∀ arrival ∈ own, (∃ sent, PassedOn address sent arrival.request) ∧
      OneReadableLine arrival.request ∧ first ≤ arrival.tick ∧
        arrival.tick < first + g.config.agent.rateLimitWindowSecs * ticksPerSecond) →
    own.length ≤ g.config.agent.rateLimitPerWindow
  /-- With lines of its own the client has as many requests admitted as it likes, at one tick. -/
  unbounded : 0 < g.config.agent.rateLimitPerWindow →
    ∀ (count : Nat) (peer : Option IpAddress) (now : Instant) (tick : Nat),
      ∃ arrivals : List Arrival, arrivals.length = count ∧ g.admitted arrivals = arrivals ∧
        ∀ arrival ∈ arrivals, (∃ sent, PassedOn address sent arrival.request) ∧
          isAgentPath arrival.request.path ∧ arrival.request.peer = peer ∧ arrival.now = now ∧
            arrival.tick = tick

/-- Requests at one tick with a line of the client's own, a different one on each. -/
def selfNamed (address : String) (peer : Option IpAddress) (now : Instant) (tick count : Nat) :
    List Arrival :=
  (List.range count).map fun n =>
    ⟨forwardedRequest [String.ofList (Text.digits n), address] peer, now, tick⟩

private theorem nodup_callers_selfNamed (address : String) (peer : Option IpAddress) (now : Instant)
    (tick count : Nat) :
    ((selfNamed address peer now tick count).map fun arrival =>
      callerKey true arrival.request).Nodup := by
  have callers : (selfNamed address peer now tick count).map
      (fun arrival => callerKey true arrival.request) =
        (List.range count).map fun n => String.ofList (Text.digits n) := by
    rw [selfNamed, List.map_map]
    exact List.map_congr_left fun n _ => callerKey_forwardedRequest (isHop_digits n) [address] peer
  rw [callers]
  exact List.nodup_range.map digits_injective

/-- A gateway that trusts its proxy counts a client for the address that the proxy adds as long as
its requests arrive with one forwarding line that can be read, and for what it chooses otherwise. -/
theorem countsForwarded_create (config : Config) (book : Book) (address : String)
    (trusting : config.gateway.trustForwardedFor = true) (hop : IsHop address) :
    (create config book).CountsForwarded address := by
  have trusts : (create config book).config.gateway.trustForwardedFor = true := trusting
  constructor
  case told =>
    intro sent arrived passed single
    rw [trusts]
    exact passed.callerKey_eq hop single
  case untold =>
    intro sent arrived passed several
    rw [trusts]
    exact passed.callerKey_of_unreadable hop several
  case bounded =>
    intro arrivals own sorted chosen first counted
    have empty : (create config book).agents.limiter.hits = [] := rfl
    refine @length_admitted_le _ empty arrivals own sorted chosen address first ?_
    intro arrival member
    obtain ⟨⟨sent, passed⟩, single, within⟩ := counted arrival member
    rw [trusts]
    exact ⟨passed.callerKey_eq hop single, within⟩
  case unbounded =>
    intro positive count peer now tick
    have each : ∀ arrival ∈ selfNamed address peer now tick count, ∃ n, arrival =
        ⟨forwardedRequest [String.ofList (Text.digits n), address] peer, now, tick⟩ := by
      intro arrival member
      obtain ⟨n, -, rfl⟩ := List.mem_map.mp member
      exact ⟨n, rfl⟩
    have below : ∀ arrival ∈ selfNamed address peer now tick count,
        isAgentPath arrival.request.path := by
      intro arrival member
      obtain ⟨n, rfl⟩ := each arrival member
      exact isAgentPath_forwardedRequest _ peer
    have sorted : (selfNamed address peer now tick count).Pairwise (·.tick ≤ ·.tick) :=
      List.pairwise_map.mpr (List.pairwise_of_forall fun _ _ => Nat.le_refl tick)
    have distinct := nodup_callers_selfNamed address peer now tick count
    rw [← trusts] at distinct
    refine ⟨selfNamed address peer now tick count, by simp [selfNamed],
      admitted_of_distinct rfl positive sorted below distinct, ?_⟩
    intro arrival member
    have path := below arrival member
    obtain ⟨n, rfl⟩ := each arrival member
    exact ⟨⟨_, passedOn_ownLine address _ peer⟩, path, rfl, rfl, rfl⟩

/-- A gateway behind a proxy that admits one request of a caller in a window. -/
def strictGateway : Gateway :=
  create { agent := { rateLimitPerWindow := 1 }, gateway := { trustForwardedFor := true } } Book.empty

/-- Requests of one client, all at once, with a line each and what its proxy makes of that. -/
def forwardedArrivals (added : String → List String) (own : List String) : List Arrival :=
  own.map fun line => ⟨forwardedRequest (added line) (some (.four [127, 0, 0, 1])), ⟨0, 0⟩, 0⟩

/-- Two requests of one client are both admitted if its proxy adds a line of its own, and not if it
adds its hop to the line of the client. -/
theorem countsForwarded_strictGateway :
    (strictGateway.admitted (forwardedArrivals (fun own => [own, "203.0.113.5"])
        ["198.51.100.1", "198.51.100.2"])).length = 2 ∧
      (strictGateway.admitted (forwardedArrivals (fun own => [own ++ "," ++ " " ++ "203.0.113.5"])
        ["198.51.100.1", "198.51.100.2"])).length ≤ 1 := by
  have counts := countsForwarded_create
    { agent := { rateLimitPerWindow := 1 }, gateway := { trustForwardedFor := true } } Book.empty
    "203.0.113.5" rfl ⟨by decide, by decide⟩
  refine ⟨by decide +kernel, counts.bounded _ _ (by decide) (List.Sublist.refl _) 0 ?_⟩
  intro arrival member
  obtain ⟨own, given, rfl⟩ := List.mem_map.mp ((admitted_sublist ..).subset member)
  have visible : ["198.51.100.1", "198.51.100.2"].all fun line =>
    Request.isVisible (line ++ "," ++ " " ++ "203.0.113.5") := by decide
  refine ⟨⟨_, passedOn_onLine "203.0.113.5" own " " _ rfl⟩, ⟨_, lines_forwardedRequest _ _, ?_⟩, ?_⟩
  · exact List.all_eq_true.mp visible own given
  · show 0 ≤ 0 ∧ 0 < 0 + 60 * ticksPerSecond
    decide

end Gateway

end JobRelay
