import CacheTier.Proofs.Prober.Passes

/-!
# Whom a cycle contacts and hears from

A prober demands that endpoints are contacted on behalf of a call, and some of them are heard
from later.  A cycle has contacted exactly those of whom this was demanded, nobody twice, and
waits for those of them who are still to be heard from.
-/

namespace CacheTier

/-- The endpoint that is contacted on behalf of the cycle of a call. -/
def ProberDemand.contact? (call : Nat) : ProberDemand → Option String
  | .contact other url => if other = call then some url else none
  | .probe _ => none
  | .finish _ _ => none

namespace ProbeCycle

variable {cycle : ProbeCycle} {url : String}

theorem isSettled_eq_false_iff : cycle.isSettled = false ↔ ∃ url, cycle.Awaits url := by
  rw [isSettled, List.all_eq_false]
  constructor
  · rintro ⟨⟨url, answer⟩, hprobe, hnone⟩
    obtain rfl : answer = none := by simpa using hnone
    exact ⟨url, hprobe⟩
  · rintro ⟨url, hawaits⟩
    exact ⟨_, hawaits, Bool.false_ne_true⟩

theorem not_awaits_of_isSettled (h : cycle.isSettled = true) : ¬cycle.Awaits url := by
  intro hawaits
  rw [isSettled_eq_false_iff.mpr ⟨url, hawaits⟩] at h
  cases h

end ProbeCycle

namespace Prober

/-- The endpoints contacted on behalf of the cycle of a call. -/
def contactsOf (call : Nat) (demands : List ProberDemand) : List String :=
  demands.filterMap (ProberDemand.contact? call)

/-- An endpoint has been contacted on behalf of a call and has answered since, or failed to. -/
def HeardFrom (start : Prober) (call : Nat) (events : List Event) (url : String) : Prop :=
  ∃ before answer time after, events = before ++ .receive call url answer time :: after ∧
    .contact call url ∈ start.demands before

section Contacts

variable {start : Prober} {s : ProbeSetting} {call : Nat} {events : List Event} {event : Event}
  {demands more : List ProberDemand} {cycle : ProbeCycle} {url : String}

theorem mem_contactsOf : url ∈ contactsOf call demands ↔ .contact call url ∈ demands := by
  rw [contactsOf, List.mem_filterMap]
  constructor
  · rintro ⟨demand, hdemand, hcontact⟩
    cases demand with
    | contact other target =>
        rw [ProberDemand.contact?] at hcontact
        split_ifs at hcontact with hcall
        cases hcontact
        exact hcall ▸ hdemand
    | probe force => cases hcontact
    | finish other outcome => cases hcontact
  · intro hdemand
    exact ⟨_, hdemand, if_pos rfl⟩

theorem contactsOf_append :
    contactsOf call (demands ++ more) = contactsOf call demands ++ contactsOf call more :=
  List.filterMap_append

theorem contactsOf_eq_nil (h : ∀ url, .contact call url ∉ demands) :
    contactsOf call demands = [] :=
  List.eq_nil_iff_forall_not_mem.mpr fun url => mt mem_contactsOf.mp (h url)

theorem contactsOf_map_contact (urls : List String) :
    contactsOf call (urls.map (ProberDemand.contact call)) = urls := by
  simp [contactsOf, List.filterMap_map, Function.comp_def, ProberDemand.contact?]

theorem HeardFrom.contact_mem (h : start.HeardFrom call events url) :
    .contact call url ∈ start.demands events := by
  obtain ⟨before, answer, time, after, rfl, hcontact⟩ := h
  rw [demands_append]
  exact List.mem_append_left _ hcontact

theorem heardFrom_concat_iff : start.HeardFrom call (events ++ [event]) url ↔
    start.HeardFrom call events url ∨
      (∃ answer time, event = .receive call url answer time) ∧
        .contact call url ∈ start.demands events := by
  constructor
  · rintro ⟨before, answer, time, after, heq, hcontact⟩
    rcases List.eq_nil_or_concat after with rfl | ⟨after, last, rfl⟩
    · obtain ⟨rfl, hevent⟩ := List.append_inj' heq rfl
      exact Or.inr ⟨⟨answer, time, (List.cons.inj hevent).1⟩, hcontact⟩
    · rw [List.concat_eq_append, ← List.cons_append, ← List.append_assoc] at heq
      obtain ⟨rfl, -⟩ := List.append_inj' heq rfl
      exact Or.inl ⟨before, answer, time, after, rfl, hcontact⟩
  · rintro (⟨before, answer, time, after, rfl, hcontact⟩ | ⟨⟨answer, time, rfl⟩, hcontact⟩)
    · exact ⟨before, answer, time, after ++ [event], by simp, hcontact⟩
    · exact ⟨events, answer, time, [], rfl, hcontact⟩

/-! ## What a cycle shows of its endpoints -/

/-- What a cycle has collected is what its setting has to give.  It has contacted those
of whom this was demanded, and waits for those of them who have not been heard from. -/
structure Follows (start : Prober) (s : ProbeSetting) (call : Nat) (events : List Event)
    (demands : List ProberDemand) (cycle : ProbeCycle) : Prop where
  explored : cycle.Explored s
  contacts : contactsOf call demands = cycle.contacted
  awaits : ∀ url ∈ cycle.contacted, cycle.Awaits url ↔ ¬start.HeardFrom call events url

theorem Follows.begun (start : Prober) (s : ProbeSetting) (call : Nat) (event : Event) :
    Follows start s call ([] ++ [event]) (start.demands []) (.ofEndpoints s.listed) where
  explored := .ofEndpoints s
  contacts := rfl
  awaits _ hurl := absurd hurl List.not_mem_nil

namespace Follows

/-- What is neither an answer to the cycle nor a contact of it is nothing to the cycle. -/
theorem concat (h : Follows start s call events demands cycle)
    (hevent : ∀ url answer time, event ≠ .receive call url answer time)
    (hmore : ∀ url, .contact call url ∉ more) :
    Follows start s call (events ++ [event]) (demands ++ more) cycle where
  explored := h.explored
  contacts := by
    rw [contactsOf_append, contactsOf_eq_nil hmore, List.append_nil, h.contacts]
  awaits url hurl := by
    rw [h.awaits url hurl, heardFrom_concat_iff, or_iff_left]
    rintro ⟨⟨answer, time, heq⟩, -⟩
    exact hevent url answer time heq

theorem note (h : Follows start s call events (start.demands events) cycle) (url : String)
    (time : Span) :
    Follows start s call (events ++ [.receive call url (s.answer url) time])
      (start.demands events) (cycle.note url (s.answer url)) where
  explored := h.explored.note url
  contacts := h.contacts
  awaits other hother := by
    have hcontact : .contact call other ∈ start.demands events :=
      mem_contactsOf.mp (h.contacts ▸ hother)
    have hevent : (∃ answer after, Event.receive call url (s.answer url) time =
        .receive call other answer after) ↔ other = url := by
      constructor
      · rintro ⟨answer, after, heq⟩
        cases heq
        rfl
      · rintro rfl
        exact ⟨_, _, rfl⟩
    rw [ProbeCycle.awaits_note_iff, h.awaits other hother, heardFrom_concat_iff, hevent, not_or,
      and_iff_left hcontact]

theorem absorbAll (h : Follows start s call events demands cycle)
    (hsettled : cycle.isSettled = true) :
    Follows start s call events demands cycle.absorbAll := by
  have hexplored := h.explored.absorbAll hsettled
  obtain ⟨reported, hcycle, -⟩ := cycle.absorbAll_eq
  rw [hcycle] at hexplored ⊢
  refine ⟨hexplored, h.contacts, ?_⟩
  intro url hurl
  have hheard := (h.awaits url hurl).not.mp (ProbeCycle.not_awaits_of_isSettled hsettled)
  exact iff_of_false List.not_mem_nil hheard

/-- A pass contacts endpoints that nobody can have heard from. -/
theorem nextPass (h : Follows start s call (events ++ [event]) (start.demands events) cycle)
    (hidle : cycle.probes = []) :
    Follows start s call (events ++ [event])
      (start.demands events ++
        (cycle.nextPass s.seeds).probes.map fun probe => .contact call probe.url)
      (cycle.nextPass s.seeds) := by
  have hexplored := h.explored.nextPass hidle
  obtain ⟨targets, rest, hcycle, -, htargets⟩ := ProbeCycle.enter_eq s.seeds cycle cycle.passes
  rw [ProbeCycle.nextPass] at hexplored ⊢
  rw [hcycle] at hexplored ⊢
  refine ⟨hexplored, ?_, ?_⟩
  · rw [contactsOf_append, h.contacts, List.map_map]
    exact congrArg _ (contactsOf_map_contact targets)
  · intro url hurl
    have hawaits : ⟨url, none⟩ ∈ targets.map (fun url => (⟨url, none⟩ : Probe)) ↔
        url ∈ targets := by
      simp
    refine hawaits.trans ?_
    by_cases htarget : url ∈ targets
    · refine iff_of_true htarget fun hheard => (htargets url htarget).1 ?_
      rw [← h.contacts, mem_contactsOf]
      exact (heardFrom_concat_iff.mp hheard).elim HeardFrom.contact_mem And.right
    · refine iff_of_false htarget ?_
      have hcontacted := (List.mem_append.mp hurl).resolve_right htarget
      rw [← h.awaits url hcontacted, ProbeCycle.Awaits, hidle]
      exact List.not_mem_nil

end Follows

end Contacts

end Prober
end CacheTier
