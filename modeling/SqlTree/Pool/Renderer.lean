import SqlTree.Pool.Storage
import SqlTree.Render.Node

/-!
# Rendering through pools

A renderer has one pool for each mode.  A render takes a context from the pool of its mode, writes
the node into it and gives it back, also when writing breaks off.
-/

namespace SqlTree

variable {Room : Type} [Storage Room]

/-- What is written to a context taken from the pool, unless writing breaks off, and the pool after
the context has gone back. -/
def Pool.render {mode : RenderMode} (pool : Pool (StoredContext Room mode))
    (writer : Writer (StoredContext Room mode) Unit) :
    Except Violation (Context mode) × Pool (StoredContext Room mode) :=
  let (context, rest) := pool.acquire
  match writer.run context with
  | .ok _ written => (.ok written.content, rest.release written)
  | .error violation written => (.error violation, rest.release written)

/-- One pool for each mode. -/
structure Renderer (Room : Type) where
  raw : Pool (StoredContext Room .raw) := {}
  named : Pool (StoredContext Room .named) := {}
  positional : Pool (StoredContext Room .positional) := {}

namespace Renderer

def ofConfig (config : PoolConfig) : Renderer Room :=
  { raw := { config }, named := { config }, positional := { config } }

def pool (renderer : Renderer Room) : (mode : RenderMode) → Pool (StoredContext Room mode)
  | .raw => renderer.raw
  | .named => renderer.named
  | .positional => renderer.positional

def withPool (renderer : Renderer Room) :
    (mode : RenderMode) → Pool (StoredContext Room mode) → Renderer Room
  | .raw, pool => { renderer with raw := pool }
  | .named, pool => { renderer with named := pool }
  | .positional, pool => { renderer with positional := pool }

def render (renderer : Renderer Room) (node : Node) (mode : RenderMode) :
    Except Violation (Context mode) × Renderer Room :=
  let (outcome, pool) := (renderer.pool mode).render node.write
  (outcome, renderer.withPool mode pool)

end Renderer

end SqlTree
