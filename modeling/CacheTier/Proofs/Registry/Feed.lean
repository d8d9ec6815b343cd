import CacheTier.Registry.Feed
import Mathlib.Data.List.Infix
import Mathlib.Tactic.Common

/-!
# What subscribers hear

A feed keeps the end of the stream of all events.  A subscriber meets what is new to it
one delivery at a time, at any moments between the events.  As long as it is never told
that it lost events, it has met the stream from its beginning up to its position, without
a gap and without a repetition.
-/

namespace CacheTier
namespace Feed

variable {α : Type}

/-! ## The kept end of the stream -/

/-- These are all the events there have been, and the feed keeps the last of them. -/
structure Carries (feed : Feed α) (stream : List α) : Prop where
  sent : feed.sent = stream.length
  kept : feed.kept <:+ stream

variable {feed : Feed α} {stream : List α}

theorem carries_ofCapacity (n : Nat) : (ofCapacity n : Feed α).Carries [] where
  sent := rfl
  kept := List.suffix_refl []

theorem Carries.send (h : feed.Carries stream) (event : α) :
    (feed.send event).Carries (stream ++ [event]) where
  sent := by simp [Feed.send, h.sent]
  kept := by
    have hlonger : feed.kept ++ [event] <:+ stream ++ [event] :=
      (List.suffix_append_inj_of_length_eq rfl).mpr ⟨h.kept, rfl⟩
    exact (List.drop_suffix _ _).trans hlonger

theorem Carries.drop_oldest (h : feed.Carries stream) :
    stream.drop feed.oldest = feed.kept := by
  rw [oldest, h.sent]
  exact (List.suffix_iff_eq_drop.mp h.kept).symm

/-- A subscriber whose next event is still kept reads the rest of the stream. -/
theorem Carries.readFrom_eq (h : feed.Carries stream) {position : Nat}
    (hkept : feed.oldest ≤ position) :
    feed.readFrom position = (stream.drop position).map .event := by
  rw [readFrom, if_neg (Nat.not_lt.mpr hkept), ← h.drop_oldest, List.drop_drop,
    Nat.add_sub_cancel' hkept]

/-! ## Subscribers -/

/-- How far a subscriber has come and what it has met. -/
structure Listener (α : Type) where
  position : Nat
  met : List (Delivery α)

/-- A subscriber that has met nothing yet. -/
def newcomer (feed : Feed α) : Listener α := ⟨feed.subscribe, []⟩

/-- How many events a delivery stands for. -/
def Delivery.span : Delivery α → Nat
  | .lagged missed => missed
  | .event _ => 1

/-- The subscriber meets the first of what is new to it, if anything is. -/
def Listener.receive (listener : Listener α) (feed : Feed α) : Listener α :=
  match feed.readFrom listener.position with
  | [] => listener
  | next :: _ => ⟨listener.position + next.span, listener.met ++ [next]⟩

/-- The subscriber has not been told that it lost events. -/
def Listener.NeverLagged (listener : Listener α) : Prop :=
  ∀ missed, .lagged missed ∉ listener.met

/-- What happens around a feed: an event is sent, or the subscriber receives. -/
inductive Turn (α : Type) where
  | send (event : α)
  | receive

/-- The events that are sent in some turns. -/
def sentIn (turns : List (Turn α)) : List α :=
  turns.filterMap fun
    | .send event => some event
    | .receive => none

/-- Feed and subscriber after a turn. -/
def turn (pair : Feed α × Listener α) : Turn α → Feed α × Listener α
  | .send event => (pair.1.send event, pair.2)
  | .receive => (pair.1, pair.2.receive pair.1)

/-- Feed and subscriber after some turns, where the subscriber is there from the start. -/
def attend (feed : Feed α) (turns : List (Turn α)) : Feed α × Listener α :=
  turns.foldl turn (feed, feed.newcomer)

/-- The subscriber has met the beginning of the stream up to its position. -/
structure Listener.Abreast (listener : Listener α) (stream : List α) : Prop where
  position_le : listener.position ≤ stream.length
  met_eq : listener.met = (stream.take listener.position).map .event

variable {listener : Listener α}

theorem Listener.Abreast.send (h : listener.Abreast stream) (event : α) :
    listener.Abreast (stream ++ [event]) where
  position_le := by
    rw [List.length_append]
    exact Nat.le_add_right_of_le h.position_le
  met_eq := by rw [h.met_eq, List.take_append_of_le_length h.position_le]

theorem Listener.Abreast.receive (h : listener.Abreast stream) (hfeed : feed.Carries stream)
    (hnever : (listener.receive feed).NeverLagged) :
    (listener.receive feed).Abreast stream := by
  rw [Listener.receive] at hnever ⊢
  by_cases hkept : feed.oldest ≤ listener.position
  · rw [hfeed.readFrom_eq hkept] at hnever ⊢
    cases hrest : stream.drop listener.position with
    | nil => simpa [hrest] using h
    | cons event rest =>
        have hlt : listener.position < stream.length := by
          by_contra hge
          rw [List.drop_eq_nil_of_le (Nat.not_lt.mp hge)] at hrest
          exact List.cons_ne_nil event rest hrest.symm
        have hevent : stream[listener.position] = event := by
          rw [List.drop_eq_getElem_cons hlt] at hrest
          exact (List.cons.inj hrest).1
        refine ⟨hlt, ?_⟩
        change listener.met ++ [.event event] =
          (stream.take (listener.position + 1)).map .event
        rw [List.take_succ_eq_append_getElem hlt, List.map_append, h.met_eq, hevent]
        rfl
  · rw [readFrom, if_pos (Nat.not_le.mp hkept)] at hnever
    exact absurd (by simp) (hnever (feed.oldest - listener.position))

theorem Listener.NeverLagged.of_receive (h : (listener.receive feed).NeverLagged) :
    listener.NeverLagged := by
  intro missed hmet
  rw [Listener.receive] at h
  cases hread : feed.readFrom listener.position with
  | nil =>
      rw [hread] at h
      exact h missed hmet
  | cons next rest =>
      rw [hread] at h
      exact h missed (List.mem_append_left [next] hmet)

theorem sentIn_concat_send (turns : List (Turn α)) (event : α) :
    sentIn (turns ++ [.send event]) = sentIn turns ++ [event] :=
  List.filterMap_append

theorem sentIn_concat_receive (turns : List (Turn α)) :
    sentIn (turns ++ [.receive]) = sentIn turns :=
  List.filterMap_append.trans (List.append_nil _)

theorem attend_concat (feed : Feed α) (turns : List (Turn α)) (last : Turn α) :
    feed.attend (turns ++ [last]) = turn (feed.attend turns) last := by
  rw [attend, attend, List.foldl_append, List.foldl_cons, List.foldl_nil]

theorem sendAll_append (feed : Feed α) (earlier later : List α) :
    feed.sendAll (earlier ++ later) = (feed.sendAll earlier).sendAll later := by
  rw [sendAll, sendAll, sendAll, List.foldl_append]

theorem fst_attend (feed : Feed α) (turns : List (Turn α)) :
    (feed.attend turns).1 = feed.sendAll (sentIn turns) := by
  induction turns using List.reverseRecOn with
  | nil => rfl
  | append_singleton turns last ih =>
      rw [attend_concat]
      cases last with
      | send event =>
          rw [sentIn_concat_send, sendAll_append, ← ih]
          rfl
      | receive =>
          rw [sentIn_concat_receive, ← ih]
          rfl

theorem carries_sendAll (n : Nat) (stream : List α) :
    ((ofCapacity n).sendAll stream).Carries stream := by
  induction stream using List.reverseRecOn with
  | nil => exact carries_ofCapacity n
  | append_singleton stream event ih =>
      rw [sendAll_append]
      exact ih.send event

/-- A subscriber that never lags has met the beginning of what was sent. -/
theorem abreast_attend (n : Nat) (turns : List (Turn α))
    (hnever : ((ofCapacity n).attend turns).2.NeverLagged) :
    ((ofCapacity n).attend turns).2.Abreast (sentIn turns) := by
  induction turns using List.reverseRecOn with
  | nil => exact ⟨Nat.le_refl 0, rfl⟩
  | append_singleton turns last ih =>
      rw [attend_concat] at hnever ⊢
      cases last with
      | send event =>
          rw [sentIn_concat_send]
          exact (ih hnever).send event
      | receive =>
          rw [sentIn_concat_receive]
          have hcarries : ((ofCapacity n).attend turns).1.Carries (sentIn turns) := by
            rw [fst_attend]
            exact carries_sendAll n (sentIn turns)
          exact (ih hnever.of_receive).receive hcarries hnever

/-- A subscriber that never lags and has nothing left to read has met all that was sent,
once and in order. -/
theorem met_eq_of_neverLagged (n : Nat) (turns : List (Turn α))
    (hnever : ((ofCapacity n).attend turns).2.NeverLagged)
    (hread : ((ofCapacity n).sendAll (sentIn turns)).readFrom
      ((ofCapacity n).attend turns).2.position = []) :
    ((ofCapacity n).attend turns).2.met = (sentIn turns).map .event := by
  have habreast := abreast_attend n turns hnever
  have hcarries := carries_sendAll n (sentIn turns)
  generalize (ofCapacity n).sendAll (sentIn turns) = feed at hread hcarries
  generalize ((ofCapacity n).attend turns).2 = listener at hread habreast ⊢
  by_cases hkept : feed.oldest ≤ listener.position
  · rw [hcarries.readFrom_eq hkept, List.map_eq_nil_iff, List.drop_eq_nil_iff] at hread
    rw [habreast.met_eq, List.take_of_length_le hread]
  · rw [readFrom, if_pos (Nat.not_le.mp hkept)] at hread
    exact absurd hread (List.cons_ne_nil _ _)

/-! ## Prompt subscribers -/

theorem one_le_powerOfTwoAbove (n : Nat) : 1 ≤ powerOfTwoAbove n := by
  rw [powerOfTwoAbove]
  split_ifs
  · exact Nat.le_refl 1
  · rw [Nat.one_shiftLeft]
    exact Nat.one_le_two_pow

theorem capacity_sendAll (feed : Feed α) (events : List α) :
    (feed.sendAll events).capacity = feed.capacity := by
  induction events generalizing feed with
  | nil => rfl
  | cons event rest ih => exact ih (feed.send event)

/-- The event sent last is kept. -/
theorem Carries.oldest_send_le (h : feed.Carries stream) (hroom : 1 ≤ feed.capacity)
    (event : α) : (feed.send event).oldest ≤ stream.length := by
  have hkept : 1 ≤ (feed.send event).kept.length := by
    simp only [Feed.send, List.length_drop, List.length_append, List.length_singleton]
    omega
  rw [oldest, (h.send event).sent, List.length_append, List.length_singleton]
  omega

/-- The turns in which a subscriber receives after every event. -/
def promptly (events : List α) : List (Turn α) :=
  events.flatMap fun event => [.send event, .receive]

theorem sentIn_promptly (events : List α) : sentIn (promptly events) = events := by
  induction events with
  | nil => rfl
  | cons event rest ih => exact congrArg (event :: ·) ih

/-- A subscriber that receives after every event never lags and misses nothing. -/
theorem attend_promptly (n : Nat) (events : List α) :
    ((ofCapacity n).attend (promptly events)).2 = ⟨events.length, events.map .event⟩ := by
  induction events using List.reverseRecOn with
  | nil => rfl
  | append_singleton events event ih =>
      have hcarries := carries_sendAll n events
      have hroom : 1 ≤ ((ofCapacity n).sendAll events).capacity := by
        rw [capacity_sendAll]
        exact one_le_powerOfTwoAbove n
      have hturns : promptly (events ++ [event]) =
          promptly events ++ [.send event] ++ [.receive] := by
        simp [promptly]
      rw [hturns, attend_concat, attend_concat]
      change ((ofCapacity n).attend (promptly events)).2.receive
        (((ofCapacity n).attend (promptly events)).1.send event) = _
      rw [ih, fst_attend, sentIn_promptly, Listener.receive,
        (hcarries.send event).readFrom_eq (hcarries.oldest_send_le hroom event), List.drop_left]
      simp [Delivery.span]

theorem promptly_keeps_up (n : Nat) (events : List α) :
    ((ofCapacity n).attend (promptly events)).2.NeverLagged ∧
      ((ofCapacity n).sendAll events).readFrom
        ((ofCapacity n).attend (promptly events)).2.position = [] := by
  have hcarries := carries_sendAll n events
  rw [attend_promptly]
  constructor
  · intro missed
    simp
  · have hkept : ((ofCapacity n).sendAll events).oldest ≤ events.length := by
      rw [oldest, hcarries.sent]
      exact Nat.sub_le _ _
    rw [hcarries.readFrom_eq hkept, List.drop_length, List.map_nil]

end Feed
end CacheTier
