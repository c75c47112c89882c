import PolicyStudio.Session.State

/-!
# The store of sessions

Sessions are kept under numbers that are given out once, in the order in which
they were created or changed last, the oldest first.  There is room for a limited
number of sessions, though always for one; a new session drives out the oldest.

A run leaves the store open to others until it comes back, and its result is
recorded only if the session is still there and has not moved on.
-/

namespace PolicyStudio
namespace Session

/-- The number of a session. -/
abbrev Id := Nat

/-- Sessions by number, the oldest first. -/
structure Store (τ : Type) where
  sessions : List (Id × State τ)
  /-- The number for the next session. -/
  next : Id
  /-- How many sessions there is room for. -/
  limit : Int

namespace Store

variable {τ : Type}

/-- The room for sessions: a limit of its own comes before the general one. -/
def limitOf (own : Option Int) (setting : Int) : Int :=
  own.getD setting

/-- The store without sessions. -/
def empty (limit : Int) : Store τ :=
  ⟨[], 0, limit⟩

/-- How many sessions there can be. -/
def capacity (store : Store τ) : Nat :=
  (max store.limit 1).toNat

/-- How many sessions there are. -/
def size (store : Store τ) : Nat :=
  store.sessions.length

/-- The numbers of the sessions, the oldest first. -/
def order (store : Store τ) : List Id :=
  store.sessions.map Prod.fst

/-- The session with a number. -/
def get? (store : Store τ) (id : Id) : Option (State τ) :=
  store.sessions.lookup id

/-- Drive out the oldest sessions until there is room. -/
def evict (store : Store τ) : Store τ :=
  { store with sessions := store.sessions.drop (store.size - store.capacity) }

/-- Store a new session. -/
def create (store : Store τ) (state : State τ) : Id × Store τ :=
  (store.next,
    { store with
      sessions := store.sessions ++ [(store.next, state)]
      next := store.next + 1 }.evict)

/-- The sessions without one. -/
def without (store : Store τ) (id : Id) : List (Id × State τ) :=
  store.sessions.filter fun entry => entry.1 != id

/-- Replace the state of a session, which becomes the latest. -/
def put (store : Store τ) (id : Id) (state : State τ) : Store τ :=
  { store with sessions := store.without id ++ [(id, state)] }

/-- Change a session, if it is there; a change that fails changes nothing. -/
def update {ε : Type} (store : Store τ) (id : Id) (change : State τ → Except ε (State τ)) :
    Except ε (Option (State τ) × Store τ) :=
  match store.get? id with
  | none => .ok (none, store)
  | some state => do
    let after ← change state
    return (some after, store.put id after)

/-- Change a session by a step that cannot fail. -/
def modify (store : Store τ) (id : Id) (change : State τ → State τ) :
    Option (State τ) × Store τ :=
  match store.get? id with
  | none => (none, store)
  | some state => (some (change state), store.put id (change state))

/-- Remove a session; the answer tells whether it was there. -/
def delete (store : Store τ) (id : Id) : Bool × Store τ :=
  ((store.get? id).isSome, { store with sessions := store.without id })

/-- Remove all sessions. -/
def clear (store : Store τ) : Store τ :=
  { store with sessions := [] }

/-- A way to run programs that may use the store meanwhile: it answers with the
result, or with an error, and with the store as it left it. -/
abbrev Runner (τ ε : Type) := String → Store τ → Except ε ExecutionResult × Store τ

/-- Run the program of a session.  An error leaves the session running. -/
def execute {ε : Type} (store : Store τ) (id : Id) (run : Runner τ ε) :
    Except ε (Option (State τ)) × Store τ :=
  match store.modify id State.begin with
  | (none, store) => (.ok none, store)
  | (some running, store) => match run running.source store with
    | (.error error, store) => (.error error, store)
    | (.ok result, store) =>
      let (after, store) := store.modify id fun state => state.complete running.revision result
      (.ok after, store)

end Store

end Session
end PolicyStudio
