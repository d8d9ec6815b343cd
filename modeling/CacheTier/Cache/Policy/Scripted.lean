import CacheTier.Cache.Policy

/-!
# A scripted policy

A policy without bookkeeping that nominates from a fixed list and keeps a record
of everything it is asked.
-/

namespace CacheTier

/-- The nominations to come, and the record of what was asked, latest first. -/
structure Scripted where
  victims : List (Option String)
  asked : List String
  deriving DecidableEq, Repr, Inhabited

namespace Scripted

/-- The policy that will make some nominations; none stands for no victim. -/
def ofVictims (victims : List (Option String)) : Scripted := ⟨victims, []⟩

/-- Notes something that was asked. -/
def note (s : Scripted) (what key : String) : Scripted :=
  { s with asked := (what ++ " " ++ key) :: s.asked }

/-- The record in the order of asking, and the policy with an empty record. -/
def takeAsked (s : Scripted) : Scripted × List String :=
  ({ s with asked := [] }, s.asked.reverse)

/-- Makes the next nomination. -/
def evict (s : Scripted) : Scripted × Option String :=
  match s.victims with
  | some victim :: rest => ({ s with victims := rest }.note "evict" victim, some victim)
  | none :: rest => ({ s with victims := rest }.note "evict" "-", none)
  | [] => (s.note "evict" "-", none)

instance : EvictionPolicy Scripted where
  name _ := "scripted"
  insert s key := s.note "insert" key
  access s key := (s.note "access" key, true)
  remove s key := (s.note "remove" key, true)
  evict := evict
  clear s := s.note "clear" ""
  size _ := 0
  supply s := s.victims.length

end Scripted
end CacheTier
