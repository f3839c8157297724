import SqlTree.Pool.Basic

/-!
# Sessions

A session is a pool together with the contexts that are in use, each under the name of its slot.
-/

namespace SqlTree

/-- A pool and the contexts taken from it, by slot. -/
structure PoolSession (Context : Type) where
  pool : Pool Context
  held : List (String × Context) := []

namespace PoolSession

variable {Context : Type}

def held? (session : PoolSession Context) (slot : String) : Option Context :=
  session.held.lookup slot

/-- The session after the context in a slot, if there is one, has gone back to the pool. -/
def release [Reusable Context] (session : PoolSession Context) (slot : String) :
    PoolSession Context :=
  match session.held? slot with
  | none => session
  | some context =>
    { pool := session.pool.release context
      held := session.held.filter fun entry => entry.1 != slot }

/-- The session after a context has been taken into a slot.  The context that was in the slot goes
back after the new one has been taken. -/
def acquire [Reusable Context] (session : PoolSession Context) (slot : String) :
    PoolSession Context :=
  let (context, pool) := session.pool.acquire
  let released := ({ session with pool } : PoolSession Context).release slot
  { released with held := (slot, context) :: released.held }

def modify (session : PoolSession Context) (slot : String) (change : Context → Context) :
    PoolSession Context :=
  { session with
    held := session.held.map fun entry =>
      if entry.1 == slot then (entry.1, change entry.2) else entry }

end PoolSession

end SqlTree
