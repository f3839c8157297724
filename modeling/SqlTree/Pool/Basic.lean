import SqlTree.Pool.Config

/-!
# Pools of reusable contexts

A pool keeps contexts that are out of use, to hand them out again.  A context that comes back is
cleared before it is kept, and is dropped when it has grown too large or the pool is full.
-/

namespace SqlTree

/-- Contexts that can be cleared and used again.  Clearing keeps the room a context has. -/
class Reusable (Context : Type) where
  fresh : Context
  clear : Context → Context
  bufferCapacity : Context → Nat
  valueCapacity : Context → Nat

/-- The limits and the idle contexts, the one that came back last in front. -/
structure Pool (Context : Type) where
  config : PoolConfig := {}
  idle : List Context := []

namespace Pool

variable {Context : Type}

def idleCount (pool : Pool Context) : Nat :=
  pool.idle.length

/-- The idle context that came back last, or a fresh one, and the pool without it. -/
def acquire [Reusable Context] (pool : Pool Context) : Context × Pool Context :=
  match pool.idle with
  | [] => (Reusable.fresh, pool)
  | context :: rest => (context, { pool with idle := rest })

/-- The context has no more room than an idle one may have. -/
def admits [Reusable Context] (pool : Pool Context) (context : Context) : Bool :=
  Reusable.bufferCapacity context ≤ pool.config.maxBufferCapacity
    && Reusable.valueCapacity context ≤ pool.config.maxValues

def release [Reusable Context] (pool : Pool Context) (context : Context) : Pool Context :=
  if pool.admits context && pool.idleCount < pool.config.maxIdle then
    { pool with idle := Reusable.clear context :: pool.idle }
  else pool

def description (pool : Pool Context) : String :=
  "ContextPool \x7b config: " ++ pool.config.description ++ ", idle: " ++ toString pool.idleCount
    ++ " \x7d"

end Pool

end SqlTree
