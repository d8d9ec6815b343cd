import CacheTier.Proofs.Prober.Ranking

/-!
# What a cycle depends on

Which endpoints answer, and whom they report, settles whom a cycle contacts: every pass is for
endpoints that depend on the answers to the passes before it.  The order of the lists and their
repeats play no part in this, nor in what the cycle comes to.
-/

namespace CacheTier

/-- How the endpoints of a service behave when they are contacted. -/
structure Refresher where
  /-- The time after which an endpoint answers, unless it fails. -/
  latency? : String → Option Span
  /-- The peers that an endpoint reports with its answer. -/
  peers : String → List String

/-- All that a cycle depends on. -/
structure ProbeSetting extends Refresher where
  listed : List EndpointRecord
  seeds : List String
  /-- The time that an endpoint has for its answer. -/
  timeout : Span

namespace ProbeSetting

variable {s : ProbeSetting} {url : String}

/-- What comes of contacting an endpoint; one that takes too long has failed. -/
def answer (s : ProbeSetting) (url : String) : ProbeAnswer :=
  match s.latency? url with
  | some latency => if latency ≤ s.timeout then .answered latency (s.peers url) else .silent
  | none => .silent

/-- An endpoint answers in time, after so long. -/
def AnswersIn (s : ProbeSetting) (url : String) (latency : Span) : Prop :=
  s.latency? url = some latency ∧ latency ≤ s.timeout

def Answers (s : ProbeSetting) (url : String) : Prop := ∃ latency, s.AnswersIn url latency

/-- An endpoint is listed as active, or as inactive. -/
def Lists (s : ProbeSetting) (active : Bool) (url : String) : Prop :=
  ∃ record ∈ s.listed, record.active = active ∧ record.url = url

/-- A pass is for an endpoint. -/
inductive Includes (s : ProbeSetting) : ProbePass → String → Prop
  | active {url : String} (hlisted : s.Lists true url) : Includes s .active url
  /-- The inactive endpoints have their turn if no active one answers. -/
  | inactive {url : String} (hlisted : s.Lists false url)
      (hsilent : ∀ other, s.Lists true other → ¬s.Answers other) : Includes s .inactive url
  /-- The seeds have theirs if no listed one does. -/
  | seed {url : String} (hseed : url ∈ s.seeds)
      (hsilent : ∀ record ∈ s.listed, ¬s.Answers record.url) : Includes s .seeds url
  /-- At last it is the turn of those whom an endpoint of these passes reports. -/
  | reported {pass : ProbePass} {source url : String} (hsource : Includes s pass source)
      (hpass : pass ≠ .reported) (hanswers : s.Answers source) (hpeer : url ∈ s.peers source)
      (hnamed : url ≠ "") : Includes s .reported url

/-- Some pass is for an endpoint, so a cycle contacts it. -/
def Contacts (s : ProbeSetting) (url : String) : Prop := ∃ pass, s.Includes pass url

@[simp]
theorem includes_active_iff : s.Includes .active url ↔ s.Lists true url :=
  ⟨fun | .active hlisted => hlisted, .active⟩

@[simp]
theorem includes_inactive_iff : s.Includes .inactive url ↔
    s.Lists false url ∧ ∀ other, s.Lists true other → ¬s.Answers other :=
  ⟨fun | .inactive hlisted hsilent => ⟨hlisted, hsilent⟩, fun h => .inactive h.1 h.2⟩

@[simp]
theorem includes_seeds_iff : s.Includes .seeds url ↔
    url ∈ s.seeds ∧ ∀ record ∈ s.listed, ¬s.Answers record.url :=
  ⟨fun | .seed hseed hsilent => ⟨hseed, hsilent⟩, fun h => .seed h.1 h.2⟩

/-- If none of those answers whom the first two passes are for, nobody who is listed does. -/
theorem silent_listed_iff : (∀ record ∈ s.listed, ¬s.Answers record.url) ↔
    ∀ other, s.Includes .active other ∨ s.Includes .inactive other → ¬s.Answers other := by
  constructor
  · rintro hsilent other (hincludes | hincludes)
    · obtain ⟨record, hrecord, -, rfl⟩ := includes_active_iff.mp hincludes
      exact hsilent record hrecord
    · obtain ⟨⟨record, hrecord, -, rfl⟩, -⟩ := includes_inactive_iff.mp hincludes
      exact hsilent record hrecord
  · intro hsilent record hrecord
    have hactive : ∀ other, s.Lists true other → ¬s.Answers other :=
      fun other hother => hsilent other (Or.inl (.active hother))
    cases hlisted : record.active with
    | true => exact hactive record.url ⟨record, hrecord, hlisted, rfl⟩
    | false => exact hsilent _ (Or.inr (.inactive ⟨record, hrecord, hlisted, rfl⟩ hactive))

/-- Whoever is reported is reported by somebody who answers, so a cycle meets with silence only
if all who are listed are silent, and the seeds too. -/
theorem silent_contacts_iff : (∀ url, s.Contacts url → ¬s.Answers url) ↔
    (∀ record ∈ s.listed, ¬s.Answers record.url) ∧ ∀ seed ∈ s.seeds, ¬s.Answers seed := by
  constructor
  · intro hsilent
    have hlisted := silent_listed_iff.mpr fun other hother =>
      hsilent other (hother.elim (fun h => ⟨_, h⟩) fun h => ⟨_, h⟩)
    exact ⟨hlisted, fun seed hseed => hsilent seed ⟨_, .seed hseed hlisted⟩⟩
  · rintro ⟨hlisted, hseeds⟩
    have hasked : ∀ pass url, pass ≠ .reported → s.Includes pass url → ¬s.Answers url := by
      rintro pass url hpass (⟨record, hrecord, -, rfl⟩ | ⟨⟨record, hrecord, -, rfl⟩, -⟩ |
        ⟨hseed, -⟩ | _)
      · exact hlisted record hrecord
      · exact hlisted record hrecord
      · exact hseeds url hseed
      · exact absurd rfl hpass
    rintro url ⟨pass, hincludes⟩
    by_cases hpass : pass = .reported
    · subst hpass
      obtain _ | _ | _ | ⟨hsource, hpass, hanswers, -, -⟩ := hincludes
      exact absurd hanswers (hasked _ _ hpass hsource)
    · exact hasked pass url hpass hincludes

theorem answered?_answer_iff {entry : String × Span} :
    (⟨url, some (s.answer url)⟩ : Probe).answered? = some entry ↔
      entry.1 = url ∧ s.AnswersIn url entry.2 := by
  obtain ⟨name, latency⟩ := entry
  rw [Probe.answered?, answer, AnswersIn]
  cases hlatency : s.latency? url with
  | none => simp
  | some after =>
      dsimp only
      split_ifs with htime
      · simp only [Option.some.injEq, Prod.mk.injEq]
        constructor
        · rintro ⟨rfl, rfl⟩
          exact ⟨rfl, rfl, htime⟩
        · rintro ⟨rfl, rfl, -⟩
          exact ⟨rfl, rfl⟩
      · simp only [false_iff]
        rintro ⟨-, hafter, hle⟩
        rw [Option.some.inj hafter] at htime
        exact htime hle

theorem mem_peers_answer_iff {peer : String} :
    peer ∈ (⟨url, some (s.answer url)⟩ : Probe).peers ↔ s.Answers url ∧ peer ∈ s.peers url := by
  rw [Probe.peers, answer, Answers]
  cases hlatency : s.latency? url with
  | none => simp [AnswersIn, hlatency]
  | some after =>
      dsimp only
      split_ifs with htime
      · simp [AnswersIn, hlatency, htime]
      · simp [AnswersIn, hlatency, htime]

/-! ## Verdicts -/

/-- What a cycle comes to: its outcome, and the list it leaves. -/
inductive Verdict (s : ProbeSetting) : ProbeOutcome → List EndpointRecord → Prop
  /-- All are silent who are listed, and all seeds.  The list is kept. -/
  | allFailed (hlisted : ∀ record ∈ s.listed, ¬s.Answers record.url)
      (hseeds : ∀ seed ∈ s.seeds, ¬s.Answers seed) : Verdict s .allFailed s.listed
  /-- The list is that of all who answer of those who are contacted. -/
  | completed {ranking : List EndpointRecord} (hne : ranking ≠ [])
      (hnodup : (ranking.map EndpointRecord.url).Nodup)
      (hsorted : ranking.Pairwise EndpointRecord.Precedes)
      (hmem : ∀ record, record ∈ ranking ↔ ∃ url latency, record = .ofAnswer url latency ∧
        s.Contacts url ∧ s.AnswersIn url latency) :
      Verdict s (.completed ranking.length) ranking

/-- Two settings differ only in the order of their lists, and in repeats. -/
structure Alike (s t : ProbeSetting) : Prop where
  latency : ∀ url, s.latency? url = t.latency? url
  peers : ∀ url peer, peer ∈ s.peers url ↔ peer ∈ t.peers url
  lists : ∀ active url, s.Lists active url ↔ t.Lists active url
  seeds : ∀ url, url ∈ s.seeds ↔ url ∈ t.seeds
  timeout : s.timeout = t.timeout

section Alike

variable {t : ProbeSetting}

theorem Alike.symm (h : s.Alike t) : t.Alike s where
  latency url := (h.latency url).symm
  peers url peer := (h.peers url peer).symm
  lists active url := (h.lists active url).symm
  seeds url := (h.seeds url).symm
  timeout := h.timeout.symm

theorem Alike.answersIn_iff (h : s.Alike t) {latency : Span} :
    s.AnswersIn url latency ↔ t.AnswersIn url latency := by
  rw [AnswersIn, AnswersIn, h.latency, h.timeout]

theorem Alike.answers_iff (h : s.Alike t) : s.Answers url ↔ t.Answers url :=
  exists_congr fun _ => h.answersIn_iff

theorem Alike.includes (h : s.Alike t) {pass : ProbePass} (hincludes : s.Includes pass url) :
    t.Includes pass url := by
  have hsilent (active : Bool) (other : String) (hother : t.Lists active other)
      (hnone : ∀ other, s.Lists active other → ¬s.Answers other) : ¬t.Answers other :=
    mt h.answers_iff.mpr (hnone other ((h.lists active other).mpr hother))
  induction hincludes with
  | active hlisted => exact .active ((h.lists true _).mp hlisted)
  | inactive hlisted hnone =>
      exact .inactive ((h.lists false _).mp hlisted) fun other hother =>
        hsilent true other hother hnone
  | seed hseed hnone =>
      refine .seed ((h.seeds _).mp hseed) fun record hrecord => ?_
      refine hsilent record.active record.url ⟨record, hrecord, rfl, rfl⟩ ?_
      rintro _ ⟨other, hother, -, rfl⟩
      exact hnone other hother
  | reported _ hpass hanswers hpeer hnamed ih =>
      exact .reported ih hpass (h.answers_iff.mp hanswers) ((h.peers _ _).mp hpeer) hnamed

theorem Alike.contacts_iff (h : s.Alike t) : s.Contacts url ↔ t.Contacts url :=
  exists_congr fun _ => ⟨h.includes, h.symm.includes⟩

variable {outcome other : ProbeOutcome} {endpoints others : List EndpointRecord}

theorem Verdict.eq_allFailed_iff (h : s.Verdict outcome endpoints) :
    outcome = .allFailed ↔ ∀ url, s.Contacts url → ¬s.Answers url := by
  cases h with
  | allFailed hlisted hseeds =>
      exact iff_of_true rfl (silent_contacts_iff.mpr ⟨hlisted, hseeds⟩)
  | completed hne _ _ hmem =>
      refine iff_of_false ProbeOutcome.noConfusion fun hsilent => ?_
      obtain ⟨record, hrecord⟩ := List.exists_mem_of_ne_nil _ hne
      obtain ⟨url, latency, -, hcontacts, hanswers⟩ := (hmem record).mp hrecord
      exact hsilent url hcontacts ⟨latency, hanswers⟩

/-- Neither the order of the lists nor their repeats have a say in what a cycle comes to. -/
theorem Verdict.unique (h : s.Verdict outcome endpoints) (hother : t.Verdict other others)
    (halike : s.Alike t) :
    outcome = other ∧ (outcome ≠ .allFailed → endpoints = others) := by
  have hfailed : outcome = .allFailed ↔ other = .allFailed := by
    rw [h.eq_allFailed_iff, hother.eq_allFailed_iff]
    simp only [halike.contacts_iff, halike.answers_iff]
  cases h with
  | allFailed _ _ => exact ⟨(hfailed.mp rfl).symm, absurd rfl⟩
  | completed _ _ hsorted hmem =>
      cases hother with
      | allFailed _ _ => cases hfailed.mpr rfl
      | completed _ _ hsorted' hmem' =>
          have hsame := hsorted.eq_of_mem_iff hsorted' fun record => by
            rw [hmem, hmem']
            simp only [halike.contacts_iff, halike.answersIn_iff]
          exact ⟨congrArg _ (congrArg _ hsame), fun _ => hsame⟩

end Alike

end ProbeSetting

end CacheTier
