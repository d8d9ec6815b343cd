import CacheTier.Transport
import Mathlib.Tactic.SplitIfs

/-!
# What is noticed of a transport

Surroundings can keep a log of what a transport asks of them, and are otherwise as before.  All
operations of a transport are made of conversations: an endpoint is named, at most one request
is sent to it, and it may be reported.
-/

namespace CacheTier

/-- What surroundings notice of a transport. -/
inductive Notice where
  | named (endpoint : Option String)
  | sent (url : Url) (exchange : Exchange)
  | reported (endpoint : String)
  | paused (start length : Span)

namespace Notice

/-- The endpoint that is reported. -/
def report : Notice → Option String
  | reported endpoint => some endpoint
  | _ => none

end Notice

/-- Whether a result is a failure that another attempt may not repeat. -/
def failsTransiently {α : Type} : Except FleetError α → Bool
  | .ok _ => false
  | .error cause => cause.isTransient

/-- An endpoint that was named, and what was sent there, if anything could be sent. -/
structure Contact where
  endpoint : String
  sent : Option (Url × Exchange)

namespace Contact

/-- What came of the contact. -/
def exchange (contact : Contact) : Exchange := (contact.sent.map Prod.snd).getD .broken

/-- What is noticed of a contact after which the endpoint is reported or is not. -/
def notices (contact : Contact) (reported : Bool) : List Notice :=
  [.named (some contact.endpoint)] ++
    contact.sent.toList.map (fun sent => .sent sent.1 sent.2) ++
    if reported then [.reported contact.endpoint] else []

/-- What was sent went to the resource of the endpoint that was named. -/
def SentTo (contact : Contact) (locate : String → Option Url) : Prop :=
  ∀ sent ∈ contact.sent, locate contact.endpoint = some sent.1

theorem reported_mem_notices_iff {contact : Contact} {reported : Bool} {endpoint : String} :
    Notice.reported endpoint ∈ contact.notices reported ↔
      reported = true ∧ endpoint = contact.endpoint := by
  cases reported with
  | false => simp [notices]
  | true => simp [notices]

theorem sent_mem_notices_iff {contact : Contact} {reported : Bool} {url : Url}
    {exchange : Exchange} :
    Notice.sent url exchange ∈ contact.notices reported ↔
      contact.sent = some (url, exchange) := by
  obtain ⟨endpoint, _ | sent⟩ := contact
  · cases reported with
    | false => simp [notices]
    | true => simp [notices]
  · cases reported with
    | false => simp [notices, Prod.ext_iff, eq_comm]
    | true => simp [notices, Prod.ext_iff, eq_comm]

theorem sent_of_exchange_eq_answered {contact : Contact} {response : Response}
    (h : contact.exchange = .answered response) :
    ∃ url, contact.sent = some (url, .answered response) := by
  obtain ⟨endpoint, _ | ⟨url, exchange⟩⟩ := contact
  · cases h
  · cases h
    exact ⟨url, rfl⟩

end Contact

namespace Surroundings

variable {ω α β : Type} (s : Surroundings ω)

/-- The surroundings with a log of what they notice. -/
def logged : Surroundings (ω × List Notice) where
  current w :=
    let (world, endpoint) := s.current w.1
    ((world, w.2 ++ [.named endpoint]), endpoint)
  report w endpoint := (s.report w.1 endpoint, w.2 ++ [.reported endpoint])
  send w url request :=
    let (world, exchange) := s.send w.1 url request
    ((world, w.2 ++ [.sent url exchange]), exchange)
  now w := s.now w.1
  pause w length := (s.pause w.1 length, w.2 ++ [.paused (s.now w.1) length])
  jitter w := s.jitter w.1

/-! ## Conversations -/

section Conversation

variable (locate : String → Option Url) (request : Url → Request)
  (heard : String → Exchange → Except FleetError β) (read : String → Exchange → Except FleetError α)

/-- Sends a request to the endpoint that is named, and reports the endpoint by what is heard of
it; none if no endpoint is named. -/
def converse (w : ω) : ω × Option (Except FleetError α) :=
  match s.current w with
  | (w, none) => (w, none)
  | (w, some endpoint) =>
    let (w, exchange) := s.ask w (locate endpoint) request
    (s.heed w endpoint (heard endpoint exchange), some (read endpoint exchange))

/-- What is noticed of a conversation, and what it results in. -/
inductive Conversation : List Notice → Option (Except FleetError α) → Prop
  | homeless : Conversation [.named none] none
  | contact (contact : Contact) (hsent : contact.SentTo locate) :
      Conversation
        (contact.notices (failsTransiently (heard contact.endpoint contact.exchange)))
        (some (read contact.endpoint contact.exchange))

variable {locate heard read} {notices : List Notice}

theorem Conversation.eq_of_none (h : Conversation locate heard read notices none) :
    notices = [.named none] := by
  cases h with
  | homeless => rfl

theorem Conversation.exists_contact {result : Except FleetError α}
    (h : Conversation locate heard read notices (some result)) :
    ∃ contact : Contact, contact.SentTo locate ∧ result = read contact.endpoint contact.exchange ∧
      notices = contact.notices (failsTransiently (heard contact.endpoint contact.exchange)) := by
  cases h with
  | contact contact hsent => exact ⟨contact, hsent, rfl, rfl⟩

end Conversation

theorem ask_logged (w : ω) (log : List Notice) (endpoint : String)
    (locate : String → Option Url) (request : Url → Request) :
    ∃ contact : Contact, contact.endpoint = endpoint ∧ contact.SentTo locate ∧
      contact.exchange = (s.ask w (locate endpoint) request).2 ∧
      s.logged.ask (w, log) (locate endpoint) request =
        (((s.ask w (locate endpoint) request).1,
          log ++ contact.sent.toList.map fun sent => .sent sent.1 sent.2), contact.exchange) := by
  simp only [ask]
  cases hurl : locate endpoint with
  | none => exact ⟨⟨endpoint, none⟩, rfl, by simp [Contact.SentTo], rfl, by simp [Contact.exchange]⟩
  | some url =>
      by_cases hsendable : (request url).isSendable = true
      · refine ⟨⟨endpoint, some (url, (s.send w url (request url)).2)⟩, rfl, ?_, ?_, ?_⟩
        · rintro sent hmem
          cases hmem
          exact hurl
        · simp [hsendable, Contact.exchange]
        · simp [hsendable, Contact.exchange, logged]
      · exact ⟨⟨endpoint, none⟩, rfl, by simp [Contact.SentTo], by simp [hsendable, Contact.exchange],
          by simp [hsendable, Contact.exchange]⟩

theorem heed_logged (w : ω) (log : List Notice) (endpoint : String)
    (result : Except FleetError α) :
    s.logged.heed (w, log) endpoint result =
      (s.heed w endpoint result,
        log ++ if failsTransiently result then [.reported endpoint] else []) := by
  cases result with
  | ok value => simp [heed, failsTransiently]
  | error cause =>
      cases htransient : cause.isTransient with
      | false => simp [heed, failsTransiently, htransient]
      | true => simp [heed, failsTransiently, htransient, logged]

/-- The log changes nothing, and shows a conversation as it was. -/
theorem converse_logged (locate : String → Option Url) (request : Url → Request)
    (heard : String → Exchange → Except FleetError β)
    (read : String → Exchange → Except FleetError α) (w : ω) (log : List Notice) :
    ∃ notices, Conversation locate heard read notices (s.converse locate request heard read w).2 ∧
      s.logged.converse locate request heard read (w, log) =
        (((s.converse locate request heard read w).1, log ++ notices),
          (s.converse locate request heard read w).2) := by
  rcases hcurrent : s.current w with ⟨next, _ | endpoint⟩
  · have hlogged : s.logged.current (w, log) = ((next, log ++ [.named none]), none) := by
      simp only [logged, hcurrent]
    refine ⟨[.named none], ?_, ?_⟩
    · rw [converse, hcurrent]
      exact .homeless
    · simp only [converse, hcurrent, hlogged]
  · have hlogged : s.logged.current (w, log) =
        ((next, log ++ [.named (some endpoint)]), some endpoint) := by
      simp only [logged, hcurrent]
    obtain ⟨contact, rfl, hsent, hexchange, hask⟩ :=
      s.ask_logged next (log ++ [.named (some endpoint)]) endpoint locate request
    refine ⟨contact.notices (failsTransiently (heard contact.endpoint contact.exchange)), ?_, ?_⟩
    · simp only [converse, hcurrent, ← hexchange]
      exact .contact contact hsent
    · simp only [converse, hcurrent, hlogged, hask, heed_logged, ← hexchange, Contact.notices,
        List.append_assoc]

/-! ## Time -/

/-- The clock does not go back, and a pause is not shorter than it should be. -/
structure Timely : Prop where
  current (w : ω) : s.now w ≤ s.now (s.current w).1
  report (w : ω) (endpoint : String) : s.now w ≤ s.now (s.report w endpoint)
  send (w : ω) (url : Url) (request : Request) : s.now w ≤ s.now (s.send w url request).1
  pause (w : ω) (length : Span) : s.now w + length ≤ s.now (s.pause w length)

variable {s}

theorem Timely.ask (h : s.Timely) (w : ω) (url : Option Url) (request : Url → Request) :
    s.now w ≤ s.now (s.ask w url request).1 := by
  cases url with
  | none => exact Nat.le_refl _
  | some url =>
      simp only [Surroundings.ask]
      split_ifs
      · exact h.send w url (request url)
      · exact Nat.le_refl _

theorem Timely.heed (h : s.Timely) (w : ω) (endpoint : String) (result : Except FleetError α) :
    s.now w ≤ s.now (s.heed w endpoint result) := by
  cases result with
  | ok value => exact Nat.le_refl _
  | error cause =>
      rw [Surroundings.heed]
      split_ifs
      · exact h.report w endpoint
      · exact Nat.le_refl _

theorem Timely.converse (h : s.Timely) (locate : String → Option Url) (request : Url → Request)
    (heard : String → Exchange → Except FleetError β)
    (read : String → Exchange → Except FleetError α) (w : ω) :
    s.now w ≤ s.now (s.converse locate request heard read w).1 := by
  have hcurrent := h.current w
  rw [Surroundings.converse]
  rcases hnext : s.current w with ⟨next, _ | endpoint⟩
  all_goals rw [hnext] at hcurrent
  · exact hcurrent
  · exact Nat.le_trans hcurrent (Nat.le_trans (h.ask next _ request) (h.heed _ endpoint _))

end Surroundings
end CacheTier
