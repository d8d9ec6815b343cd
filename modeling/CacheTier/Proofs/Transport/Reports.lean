import CacheTier.Proofs.Transport.Notices
import Mathlib

/-!
# Which failures are reported

A fetch and every attempt to deliver a pulse report the endpoint that was contacted exactly
after a failure that another attempt may not repeat.  A pulse is sent again after such a
failure, and after no other result, until the next pause would end too late.  A withdrawal
reports the endpoint if no response arrives, but not if the response tells of a fault of the
service, although that is a failure of the same kind.
-/

namespace CacheTier
namespace Transport

variable {ω : Type} (t : Transport)

/-! ## Operations as conversations -/

/-- What an exchange comes to for a caller that waits for a value. -/
def replied {α : Type} (read : Json.Value → Json.Reading α) (endpoint : String)
    (exchange : Exchange) : Except FleetError α :=
  exchange.value read endpoint t.config.requestTimeout

def received (endpoint : String) (exchange : Exchange) : Except FleetError Response :=
  exchange.response endpoint t.config.requestTimeout

/-- What an exchange comes to for a caller that withdraws a node. -/
def withdrawn (endpoint : String) (exchange : Exchange) : Except FleetError Bool := do
  let response ← t.received endpoint exchange
  if response.status == .notFound then return false
  let _ ← response.successful endpoint
  return true

def pulseAddress (endpoint : String) : Option Url := address endpoint "/v1/nodes/pulse"

def nodeAddress (id : NodeId) (endpoint : String) : Option Url :=
  address endpoint ("/v1/nodes/" ++ id.text)

/-- The endpoint that is contacted is reported exactly if the contact results in a transient
failure. -/
def Heeds {α : Type} (locate : String → Option Url) (read : String → Exchange → Except FleetError α)
    (notices : List Notice) (result : Except FleetError α) : Prop :=
  ∃ outcome, Surroundings.Conversation locate read read notices outcome ∧
    result = outcome.getD (.error t.noEndpoint)

section Conversations

variable (s : Surroundings ω) (context : RequestContext)

theorem fetch_eq_converse (known : Option String) (w : ω) :
    t.fetch s context known w =
      let (w, outcome) := s.converse (snapshotAddress · known) (plain .get context)
        (t.replied SnapshotReply.fromValue) (t.replied SnapshotReply.fromValue) w
      (w, outcome.getD (.error t.noEndpoint)) := by
  rcases hcurrent : s.current w with ⟨next, _ | endpoint⟩
  · simp only [fetch, Surroundings.converse, hcurrent, Option.getD_none]
  · simp only [fetch, Surroundings.converse, hcurrent, Option.getD_some, replied]

theorem attempt_eq_converse (pulse : PulseRequest) (w : ω) :
    t.attempt s context pulse w =
      s.converse pulseAddress (pulseRequest pulse context)
        (t.replied PulseOutcome.fromValue) (t.replied PulseOutcome.fromValue) w := by
  rcases hcurrent : s.current w with ⟨next, _ | endpoint⟩
  · simp only [attempt, Surroundings.converse, hcurrent]
  · simp only [attempt, Surroundings.converse, hcurrent, pulseAddress, replied]

theorem withdraw_eq_converse (id : NodeId) (w : ω) :
    t.withdraw s context id w =
      let (w, outcome) := s.converse (nodeAddress id) (plain .delete context)
        t.received t.withdrawn w
      (w, outcome.getD (.error t.noEndpoint)) := by
  rcases hcurrent : s.current w with ⟨next, _ | endpoint⟩
  · simp only [withdraw, Surroundings.converse, hcurrent, Option.getD_none]
  · simp only [withdraw, Surroundings.converse, hcurrent, Option.getD_some, nodeAddress,
      withdrawn, received]

theorem fetch_logged (known : Option String) (w : ω) (log : List Notice) :
    ∃ notices,
      t.Heeds (snapshotAddress · known) (t.replied SnapshotReply.fromValue) notices
        (t.fetch s context known w).2 ∧
      t.fetch s.logged context known (w, log) =
        (((t.fetch s context known w).1, log ++ notices), (t.fetch s context known w).2) := by
  obtain ⟨notices, hconversation, hlogged⟩ := s.converse_logged (snapshotAddress · known)
    (plain .get context) (t.replied SnapshotReply.fromValue) (t.replied SnapshotReply.fromValue)
    w log
  refine ⟨notices, ⟨_, hconversation, ?_⟩, ?_⟩
  · rw [fetch_eq_converse]
  · rw [fetch_eq_converse, fetch_eq_converse, hlogged]

theorem attempt_logged (pulse : PulseRequest) (w : ω) (log : List Notice) :
    ∃ notices,
      Surroundings.Conversation pulseAddress (t.replied PulseOutcome.fromValue)
        (t.replied PulseOutcome.fromValue) notices (t.attempt s context pulse w).2 ∧
      t.attempt s.logged context pulse (w, log) =
        (((t.attempt s context pulse w).1, log ++ notices), (t.attempt s context pulse w).2) := by
  rw [attempt_eq_converse, attempt_eq_converse]
  exact s.converse_logged _ _ _ _ w log

theorem withdraw_logged (id : NodeId) (w : ω) (log : List Notice) :
    ∃ notices outcome,
      Surroundings.Conversation (nodeAddress id) t.received t.withdrawn notices outcome ∧
      (t.withdraw s context id w).2 = outcome.getD (.error t.noEndpoint) ∧
      t.withdraw s.logged context id (w, log) =
        (((t.withdraw s context id w).1, log ++ notices), (t.withdraw s context id w).2) := by
  obtain ⟨notices, hconversation, hlogged⟩ := s.converse_logged (nodeAddress id)
    (plain .delete context) t.received t.withdrawn w log
  refine ⟨notices, _, hconversation, ?_, ?_⟩
  · rw [withdraw_eq_converse]
  · rw [withdraw_eq_converse, withdraw_eq_converse, hlogged]

end Conversations

/-! ## Withdrawals -/

section Withdrawals

variable {t} {id : NodeId} {notices : List Notice} {outcome : Option (Except FleetError Bool)}

theorem failsTransiently_map {α β : Type} (f : α → β) (result : Except FleetError α) :
    failsTransiently (result.map f) = failsTransiently result := by
  cases result with
  | ok value => rfl
  | error cause => rfl

theorem withdrawn_notFound {endpoint : String} {response : Response}
    (hstatus : response.status = .notFound) :
    t.withdrawn endpoint (.answered response) = .ok false := by
  have hreceived : t.received endpoint (.answered response) = .ok response := rfl
  simp [withdrawn, hreceived, hstatus, bind, Except.bind, pure, Except.pure]

theorem withdrawn_of_ne_notFound {endpoint : String} {response : Response}
    (hstatus : response.status ≠ .notFound) :
    t.withdrawn endpoint (.answered response) =
      (response.successful endpoint).map fun _ => true := by
  have hreceived : t.received endpoint (.answered response) = .ok response := rfl
  simp only [withdrawn, hreceived, bind, Except.bind, beq_iff_eq, hstatus, if_false]
  cases response.successful endpoint with
  | ok response => rfl
  | error cause => rfl

/-- A withdrawal fails transiently if no response arrives, or the response tells of a fault of
the service. -/
theorem failsTransiently_withdrawn_iff {endpoint : String} {exchange : Exchange} :
    failsTransiently (t.withdrawn endpoint exchange) = true ↔
      failsTransiently (t.received endpoint exchange) = true ∨
        ∃ response, exchange = .answered response ∧ response.status.isServerError = true := by
  cases exchange with
  | broken => exact iff_of_true rfl (Or.inl rfl)
  | timedOut => exact iff_of_true rfl (Or.inl rfl)
  | answered response =>
      have hreceived : t.received endpoint (.answered response) = .ok response := rfl
      by_cases hunknown : response.status = .notFound
      · have hwithdrawn : t.withdrawn endpoint (.answered response) = .ok false :=
          withdrawn_notFound hunknown
        have hfaultless : response.status.isServerError = false := by rw [hunknown]; rfl
        simp [hwithdrawn, hreceived, failsTransiently, hfaultless]
      · have hwithdrawn : t.withdrawn endpoint (.answered response) =
            (response.successful endpoint).map fun _ => true :=
          withdrawn_of_ne_notFound hunknown
        have hsuccessful : failsTransiently (response.successful endpoint) =
            response.status.isServerError := by
          rw [Response.successful]
          split_ifs with hclient hserver
          · simp only [Status.isClientError, Status.isServerError, failsTransiently,
              FleetError.isTransient, Bool.and_eq_true, decide_eq_true_eq] at hclient ⊢
            simp
            omega
          · simp [failsTransiently, FleetError.isTransient, hserver]
          · simp [failsTransiently, hserver]
        rw [hwithdrawn, failsTransiently_map, hsuccessful, hreceived]
        simp [failsTransiently]

/-- A withdrawal reports its failures as the other operations do unless a response tells of a
fault of the service. -/
theorem heeds_withdrawn_iff
    (h : Surroundings.Conversation (nodeAddress id) t.received t.withdrawn notices outcome) :
    t.Heeds (nodeAddress id) t.withdrawn notices (outcome.getD (.error t.noEndpoint)) ↔
      ∀ url response, Notice.sent url (.answered response) ∈ notices →
        response.status.isServerError = false := by
  cases h with
  | homeless =>
      refine iff_of_true ⟨none, .homeless, rfl⟩ ?_
      intro url response hsent
      simp at hsent
  | contact contact hsent =>
      constructor
      · rintro ⟨other, hother, hresult⟩ url response hmem
        rw [← Bool.not_eq_true]
        intro hfault
        have hanswered := Contact.sent_mem_notices_iff.mp hmem
        have hexchange : contact.exchange = .answered response := by
          rw [Contact.exchange, hanswered]
          rfl
        have hreceived : failsTransiently (t.received contact.endpoint contact.exchange) = false := by
          rw [hexchange]
          rfl
        have hwithdrawn : failsTransiently (t.withdrawn contact.endpoint contact.exchange) = true :=
          failsTransiently_withdrawn_iff.mpr (Or.inr ⟨response, hexchange, hfault⟩)
        cases other with
        | none =>
            rw [hother.eq_of_none] at hmem
            simp at hmem
        | some result =>
            obtain ⟨reported, -, hread, hnotices⟩ := hother.exists_contact
            have hsame : t.withdrawn contact.endpoint contact.exchange = result := hresult
            have hreport : Notice.reported reported.endpoint ∈ contact.notices
                (failsTransiently (t.received contact.endpoint contact.exchange)) := by
              rw [hnotices, ← hread, ← hsame, hwithdrawn]
              exact Contact.reported_mem_notices_iff.mpr ⟨rfl, rfl⟩
            rw [Contact.reported_mem_notices_iff, hreceived] at hreport
            exact Bool.false_ne_true hreport.1
      · intro hfaultless
        have hsame : failsTransiently (t.received contact.endpoint contact.exchange) =
            failsTransiently (t.withdrawn contact.endpoint contact.exchange) := by
          rw [Bool.eq_iff_iff, failsTransiently_withdrawn_iff, iff_self_or]
          rintro ⟨response, hanswered, hfault⟩
          obtain ⟨url, hsent⟩ := Contact.sent_of_exchange_eq_answered hanswered
          have hno := hfaultless url response (Contact.sent_mem_notices_iff.mpr hsent)
          rw [hfault] at hno
          cases hno
        rw [hsame]
        exact ⟨_, .contact contact hsent, rfl⟩

end Withdrawals

/-! ## Pulses -/

/-- What is noticed of the attempts to deliver a pulse from a nominal pause on: after a
transient failure there is a pause that ends before the deadline and another attempt, unless
the time is spent. -/
inductive Attempts (deadline : Span) (Spent : Span → Prop) :
    Span → List Notice → Except FleetError PulseOutcome → Prop
  | homeless (interval : Span) :
      Attempts deadline Spent interval [.named none] (.error t.noEndpoint)
  | settled {interval : Span} {notices : List Notice} {result : Except FleetError PulseOutcome}
      (hattempt : Surroundings.Conversation pulseAddress (t.replied PulseOutcome.fromValue)
        (t.replied PulseOutcome.fromValue) notices (some result))
      (hresult : failsTransiently result = false) :
      Attempts deadline Spent interval notices result
  | spent {interval : Span} {notices : List Notice} {result : Except FleetError PulseOutcome}
      (hattempt : Surroundings.Conversation pulseAddress (t.replied PulseOutcome.fromValue)
        (t.replied PulseOutcome.fromValue) notices (some result))
      (hresult : failsTransiently result = true) (hspent : Spent interval) :
      Attempts deadline Spent interval notices result
  | again {interval start : Span} {jitter : Jitter} {notices later : List Notice}
      {failed result : Except FleetError PulseOutcome}
      (hattempt : Surroundings.Conversation pulseAddress (t.replied PulseOutcome.fromValue)
        (t.replied PulseOutcome.fromValue) notices (some failed))
      (hfailed : failsTransiently failed = true)
      (hintime : start + jitter.applied interval ≤ deadline)
      (hlater : Attempts deadline Spent (interval.grownWithin longestPause) later result) :
      Attempts deadline Spent interval
        (notices ++ .paused start (jitter.applied interval) :: later) result

/-- A pause is not shorter than half its nominal length. -/
theorem half_le_applied (jitter : Jitter) (interval : Span) :
    interval.nanos / 2 ≤ (jitter.applied interval).nanos := by
  have hwhole : 0 < jitter.whole := Nat.lt_of_le_of_lt (Nat.zero_le _) jitter.share_lt_whole
  calc interval.nanos / 2 = interval.nanos * jitter.whole / (2 * jitter.whole) :=
        (Nat.mul_div_mul_right _ _ hwhole).symm
    _ ≤ (jitter.applied interval).nanos := Nat.div_le_div_right (Nat.le_add_right _ _)

theorem firstPause_le_grownWithin {interval : Span} (h : firstPause ≤ interval) :
    firstPause ≤ interval.grownWithin longestPause := by
  rw [Span.grownWithin]
  split_ifs
  · decide
  · have hgrown : interval.nanos ≤ interval.nanos * 3 / 2 := by omega
    exact Nat.le_trans h hgrown

theorem next?_eq_none_iff {backoff : Backoff} {now : Span} {jitter : Jitter} :
    backoff.next? now jitter = none ↔
      backoff.deadline < now + jitter.applied backoff.interval := by
  rw [Backoff.next?]
  split_ifs with hintime
  · exact iff_of_false (by simp) (Nat.not_lt.mpr hintime)
  · exact iff_of_true rfl (Nat.not_le.mp hintime)

theorem next?_eq_some {backoff later : Backoff} {now pause : Span} {jitter : Jitter}
    (h : backoff.next? now jitter = some (pause, later)) :
    pause = jitter.applied backoff.interval ∧ now + pause ≤ backoff.deadline ∧
      later.interval = backoff.interval.grownWithin backoff.limit ∧
      later.limit = backoff.limit ∧ later.deadline = backoff.deadline := by
  rw [Backoff.next?] at h
  split_ifs at h with hintime
  cases h
  exact ⟨rfl, hintime, rfl, rfl, rfl⟩

/-- There are enough retries to spend the time up to the deadline, as each of them takes half the
first pause at least. -/
structure Budgeted (s : Surroundings ω) (retries : Nat) (backoff : Backoff) (w : ω) : Prop where
  limit_eq : backoff.limit = longestPause
  firstPause_le : firstPause ≤ backoff.interval
  deadline_lt : backoff.deadline.nanos <
    (s.now w).nanos + (retries + 1) * (firstPause.nanos / 2)

section Delivery

variable {t} {s : Surroundings ω} {context : RequestContext} {pulse : PulseRequest}
  {retries : Nat} {backoff later : Backoff} {w next : ω} {pause : Span}

theorem Budgeted.half_le_applied (h : Budgeted s retries backoff w) (jitter : Jitter) :
    firstPause.nanos / 2 ≤ (jitter.applied backoff.interval).nanos :=
  Nat.le_trans (Nat.div_le_div_right h.firstPause_le) (Transport.half_le_applied jitter _)

theorem Budgeted.next?_eq_none (h : Budgeted s 0 backoff w) (hclock : s.now w ≤ s.now next)
    (jitter : Jitter) : backoff.next? (s.now next) jitter = none := by
  rw [next?_eq_none_iff]
  have hdeadline := h.deadline_lt
  have hpause := h.half_le_applied jitter
  have hnow : (s.now w).nanos ≤ (s.now next).nanos := hclock
  change backoff.deadline.nanos < (s.now next).nanos + (jitter.applied backoff.interval).nanos
  omega

theorem Budgeted.paused (h : Budgeted s (retries + 1) backoff w) (htimely : s.Timely)
    (hclock : s.now w ≤ s.now next)
    (hnext : backoff.next? (s.now next) (s.jitter next) = some (pause, later)) :
    Budgeted s retries later (s.pause next pause) := by
  obtain ⟨rfl, -, hinterval, hlimit, hsame⟩ := next?_eq_some hnext
  refine ⟨hlimit.trans h.limit_eq, ?_, ?_⟩
  · rw [hinterval, h.limit_eq]
    exact firstPause_le_grownWithin h.firstPause_le
  · have hdeadline := h.deadline_lt
    have hlong := h.half_le_applied (s.jitter next)
    have hnow : (s.now w).nanos ≤ (s.now next).nanos := hclock
    have hpause : (s.now next).nanos + ((s.jitter next).applied backoff.interval).nanos ≤
        (s.now (s.pause next ((s.jitter next).applied backoff.interval))).nanos :=
      htimely.pause next _
    rw [Nat.succ_mul] at hdeadline
    rw [hsame]
    omega

theorem pulseWithin_of_none (hattempt : t.attempt s context pulse w = (next, none)) :
    t.pulseWithin s context pulse retries backoff w = (next, .error t.noEndpoint) := by
  rw [pulseWithin.eq_def]
  simp only [hattempt]

theorem pulseWithin_of_settled {result : Except FleetError PulseOutcome}
    (hattempt : t.attempt s context pulse w = (next, some result))
    (hsettled : failsTransiently result = false) :
    t.pulseWithin s context pulse retries backoff w = (next, result) := by
  rw [pulseWithin.eq_def]
  cases result with
  | ok outcome => simp only [hattempt]
  | error cause =>
      have hcause : cause.isTransient = false := hsettled
      simp only [hattempt, hcause, Bool.false_eq_true, if_false]

theorem pulseWithin_of_spent {result : Except FleetError PulseOutcome}
    (hattempt : t.attempt s context pulse w = (next, some result))
    (hspent : backoff.next? (s.now next) (s.jitter next) = none) :
    t.pulseWithin s context pulse retries backoff w = (next, result) := by
  rw [pulseWithin.eq_def]
  cases result with
  | ok outcome => simp only [hattempt]
  | error cause => simp only [hattempt, hspent, ite_self]

theorem pulseWithin_of_next {result : Except FleetError PulseOutcome}
    (hattempt : t.attempt s context pulse w = (next, some result))
    (hfailed : failsTransiently result = true)
    (hnext : backoff.next? (s.now next) (s.jitter next) = some (pause, later)) :
    t.pulseWithin s context pulse (retries + 1) backoff w =
      t.pulseWithin s context pulse retries later (s.pause next pause) := by
  rw [pulseWithin.eq_def]
  cases result with
  | ok outcome => cases hfailed
  | error cause =>
      have hcause : cause.isTransient = true := hfailed
      simp only [hattempt, hcause, if_true, hnext]

theorem pulseWithin_logged (htimely : s.Timely) (hbudget : Budgeted s retries backoff w)
    (context : RequestContext) (pulse : PulseRequest) (log : List Notice) :
    let run := t.pulseWithin s context pulse retries backoff w
    ∃ notices,
      t.Attempts backoff.deadline
        (fun interval => backoff.deadline < s.now run.1 + (s.jitter run.1).applied interval)
        backoff.interval notices run.2 ∧
      t.pulseWithin s.logged context pulse retries backoff (w, log) =
        ((run.1, log ++ notices), run.2) := by
  induction retries using Nat.strongRecOn generalizing backoff w log with
  | ind retries ih =>
      obtain ⟨notices, hconversation, hlogged⟩ := t.attempt_logged s context pulse w log
      have hclock : s.now w ≤ s.now (t.attempt s context pulse w).1 := by
        rw [attempt_eq_converse]
        exact htimely.converse _ _ _ _ w
      rcases hattempt : t.attempt s context pulse w with ⟨next, _ | result⟩
      · rw [hattempt] at hconversation hlogged
        rw [pulseWithin_of_none hattempt, pulseWithin_of_none hlogged, hconversation.eq_of_none]
        exact ⟨_, .homeless _, rfl⟩
      · rw [hattempt] at hconversation hlogged hclock
        cases hfailed : failsTransiently result with
        | false =>
            rw [pulseWithin_of_settled hattempt hfailed, pulseWithin_of_settled hlogged hfailed]
            exact ⟨_, .settled hconversation hfailed, rfl⟩
        | true =>
            rcases hnext : backoff.next? (s.now next) (s.jitter next) with _ | ⟨pause, later⟩
            · rw [pulseWithin_of_spent hattempt hnext, pulseWithin_of_spent hlogged hnext]
              exact ⟨_, .spent hconversation hfailed (next?_eq_none_iff.mp hnext), rfl⟩
            · cases retries with
              | zero =>
                  rw [hbudget.next?_eq_none hclock] at hnext
                  cases hnext
              | succ retries =>
                  obtain ⟨more, hattempts, hmore⟩ := ih retries (Nat.lt_succ_self retries)
                    (hbudget.paused htimely hclock hnext)
                    (log ++ notices ++ [.paused (s.now next) pause])
                  obtain ⟨rfl, hintime, hinterval, -, hsame⟩ := next?_eq_some hnext
                  rw [hsame, hinterval, hbudget.limit_eq] at hattempts
                  have hpaused : s.logged.pause (next, log ++ notices)
                      ((s.jitter next).applied backoff.interval) = (s.pause next _,
                        log ++ notices ++ [.paused (s.now next) _]) := rfl
                  rw [pulseWithin_of_next hattempt hfailed hnext,
                    pulseWithin_of_next hlogged hfailed hnext, hpaused, hmore]
                  refine ⟨_, .again hconversation hfailed hintime hattempts, ?_⟩
                  simp only [List.append_assoc, List.singleton_append]

theorem budgeted_retryLimit (t : Transport) (s : Surroundings ω) (w : ω) :
    Budgeted s (retryLimit t.config)
      ⟨firstPause, longestPause, s.now w + t.config.pulseRetryBudget⟩ w := by
  refine ⟨rfl, Nat.le_refl _, ?_⟩
  change (s.now w).nanos + t.config.pulseRetryBudget.nanos <
    (s.now w).nanos + (2 * t.config.pulseRetryBudget.nanos / 200000000 + 1) * 100000000
  omega

theorem deliverPulse_logged (t : Transport) (htimely : s.Timely) (context : RequestContext)
    (pulse : PulseRequest) (w : ω) (log : List Notice) :
    let deadline := s.now w + t.config.pulseRetryBudget
    let run := t.deliverPulse s context pulse w
    ∃ notices,
      t.Attempts deadline
        (fun interval => deadline < s.now run.1 + (s.jitter run.1).applied interval)
        firstPause notices run.2 ∧
      t.deliverPulse s.logged context pulse (w, log) = ((run.1, log ++ notices), run.2) :=
  pulseWithin_logged htimely (budgeted_retryLimit t s w) context pulse log

end Delivery

/-! ## Reports -/

/-- Whatever the endpoints answer, a fetch and every attempt to deliver a pulse report the
endpoint that was contacted once after a transient failure, and not otherwise; a pulse is sent
again after such a failure only, and if a transient failure is returned, the next pause would
end after the deadline.  The same holds of a withdrawal exactly if no response tells of a fault
of the service. -/
theorem transient_failures_reported (s : Surroundings ω) (htimely : s.Timely) (t : Transport)
    (context : RequestContext) (w : ω) :
    (∀ known, ∃ notices,
      t.Heeds (snapshotAddress · known) (t.replied SnapshotReply.fromValue) notices
        (t.fetch s context known w).2 ∧
      t.fetch s.logged context known (w, []) =
        (((t.fetch s context known w).1, notices), (t.fetch s context known w).2)) ∧
    (∀ pulse,
      let deadline := s.now w + t.config.pulseRetryBudget
      let run := t.deliverPulse s context pulse w
      ∃ notices,
        t.Attempts deadline
          (fun interval => deadline < s.now run.1 + (s.jitter run.1).applied interval)
          firstPause notices run.2 ∧
        t.deliverPulse s.logged context pulse (w, []) = ((run.1, notices), run.2)) ∧
    ∀ id, ∃ notices,
      (t.Heeds (nodeAddress id) t.withdrawn notices (t.withdraw s context id w).2 ↔
        ∀ url response, Notice.sent url (.answered response) ∈ notices →
          response.status.isServerError = false) ∧
      t.withdraw s.logged context id (w, []) =
        (((t.withdraw s context id w).1, notices), (t.withdraw s context id w).2) := by
  refine ⟨?_, ?_, ?_⟩
  · intro known
    exact t.fetch_logged s context known w []
  · intro pulse
    exact deliverPulse_logged t htimely context pulse w []
  · intro id
    obtain ⟨notices, outcome, hconversation, hresult, hlogged⟩ :=
      t.withdraw_logged s context id w []
    refine ⟨notices, ?_, hlogged⟩
    rw [hresult]
    exact heeds_withdrawn_iff hconversation

/-- An endpoint that meets every request alike, on a clock that only pauses move. -/
def steady (exchange : Exchange) : Surroundings Span where
  current w := (w, some "http://a")
  report w _ := w
  send w _ _ := (w, exchange)
  now w := w
  pause w length := w + length
  jitter _ := .even

theorem timely_steady (exchange : Exchange) : (steady exchange).Timely where
  current _ := Nat.le_refl _
  report _ _ := Nat.le_refl _
  send _ _ _ := Nat.le_refl _
  pause _ _ := Nat.le_refl _

theorem silent_endpoint_reported_twice :
    let s := steady .timedOut
    let t : Transport := ⟨"registry", { pulseRetryBudget := .ofMillis 300 }⟩
    let pulse : PulseRequest := ⟨⟨"n"⟩, ⟨1, 2, 3, ⟨0, 0⟩⟩⟩
    let deadline := s.now .zero + t.config.pulseRetryBudget
    let run := t.deliverPulse s (.generated 0) pulse .zero
    s.Timely ∧ ∃ notices,
      t.Attempts deadline
        (fun interval => deadline < s.now run.1 + (s.jitter run.1).applied interval)
        firstPause notices run.2 ∧
      t.deliverPulse s.logged (.generated 0) pulse (.zero, []) = ((run.1, notices), run.2) ∧
      notices.filterMap Notice.report = ["http://a", "http://a"] := by
  intro s t pulse deadline run
  obtain ⟨-, hpulses, -⟩ :=
    transient_failures_reported s (timely_steady .timedOut) t (.generated 0) .zero
  obtain ⟨notices, hattempts, hlogged⟩ := hpulses pulse
  have hreports : (t.deliverPulse s.logged (.generated 0) pulse (.zero, [])).1.2.filterMap
      Notice.report = ["http://a", "http://a"] := by decide +kernel
  rw [hlogged] at hreports
  exact ⟨timely_steady .timedOut, notices, hattempts, hlogged, hreports⟩

/-- A withdrawal that is answered with a fault of the service fails transiently, and no
endpoint is reported. -/
theorem fault_on_withdrawal_not_reported :
    let s := steady (.answered (.bare .unavailable))
    let t : Transport := ⟨"registry", {}⟩
    let cause : FleetError := .endpointUnavailable "http://a" "status 503 Service Unavailable"
    s.Timely ∧ cause.isTransient = true ∧ ∃ notices,
      t.withdraw s.logged (.generated 0) ⟨"n"⟩ (.zero, []) = ((.zero, notices), .error cause) ∧
      notices.filterMap Notice.report = [] ∧
      ¬ t.Heeds (nodeAddress ⟨"n"⟩) t.withdrawn notices (.error cause) := by
  intro s t cause
  obtain ⟨notices, outcome, -, -, hlogged⟩ := t.withdraw_logged s (.generated 0) ⟨"n"⟩ .zero []
  have hrun : t.withdraw s (.generated 0) ⟨"n"⟩ .zero = (.zero, .error cause) := by
    decide +kernel
  have hreports : (t.withdraw s.logged (.generated 0) ⟨"n"⟩ (.zero, [])).1.2.filterMap
      Notice.report = [] := by decide +kernel
  rw [hlogged] at hreports
  rw [hrun] at hlogged
  refine ⟨timely_steady _, rfl, notices, hlogged, hreports, ?_⟩
  rintro ⟨other, hother, hcause⟩
  cases other with
  | none => exact FleetError.noConfusion (Except.error.inj hcause)
  | some result =>
      obtain ⟨contact, -, hread, hnotices⟩ := hother.exists_contact
      have hresult : failsTransiently (t.withdrawn contact.endpoint contact.exchange) = true := by
        rw [← hread, ← show Except.error cause = result from hcause]
        rfl
      have hreport : Notice.reported contact.endpoint ∈ notices := by
        rw [hnotices, hresult]
        exact Contact.reported_mem_notices_iff.mpr ⟨rfl, rfl⟩
      have hmem : contact.endpoint ∈ notices.filterMap Notice.report :=
        List.mem_filterMap.mpr ⟨_, hreport, rfl⟩
      rw [show notices.filterMap Notice.report = [] from hreports] at hmem
      exact List.not_mem_nil hmem

end Transport
end CacheTier
