import SqlTree.Pool.Renderer
import SqlTree.Proofs.Render.Play

/-!
# Rendering through pools

What a renderer gives does not depend on what it has rendered before.  Between two renders every
idle context is clear, so that the context a render takes is as good as a fresh one; a render that
breaks off half-way gives its context back cleared like any other.  The room of a context decides
only whether it is kept, and may be anything.
-/

namespace SqlTree

variable {Room : Type}

/-! ## Stored contexts -/

namespace StoredContext

variable [Storage Room] {mode : RenderMode}

theorem content_add (context : StoredContext Room mode) (piece : Piece) :
    (Sink.add context piece).content = Sink.add context.content piece := by
  cases piece <;> rfl

/-- What pieces leave in a context does not depend on its room. -/
theorem content_addAll (context : StoredContext Room mode) (pieces : List Piece) :
    (Sink.addAll context pieces).content = Sink.addAll context.content pieces := by
  induction pieces generalizing context with
  | nil => rfl
  | cons piece rest ih => rw [Sink.addAll_cons, Sink.addAll_cons, ih, content_add]

end StoredContext

/-! ## Endings -/

/-- The value, unless the script breaks off. -/
def Script.ending {Value : Type} (script : Script) (value : Value) : Except Violation Value :=
  match script.violation with
  | none => .ok value
  | some violation => .error violation

theorem Node.render_eq_ending (node : Node) (mode : RenderMode) :
    node.render mode =
      node.script.ending (Sink.addAll ({} : Context mode) node.script.pieces) := by
  unfold Node.render Writer.render Script.ending
  simp only [Node.run_write_eq_outcome, Script.outcome]
  cases node.script.violation <;> rfl

/-! ## Pools -/

/-- Between two renders at most one context is idle, none if none may be kept, and it is clear. -/
structure Pool.Settled {mode : RenderMode} (config : PoolConfig)
    (pool : Pool (StoredContext Room mode)) : Prop where
  config_eq : pool.config = config
  idleCount_le : pool.idleCount ≤ min 1 config.maxIdle
  clear : ∀ context ∈ pool.idle, context.content = {}

namespace Pool

variable {mode : RenderMode} {config : PoolConfig}

theorem settled_empty : Settled config ({ config } : Pool (StoredContext Room mode)) where
  config_eq := rfl
  idleCount_le := Nat.zero_le _
  clear context idle := by cases idle

variable [Storage Room]

/-- The context taken from a settled pool is clear, and leaves no other one behind. -/
theorem Settled.acquire {pool : Pool (StoredContext Room mode)} (settled : pool.Settled config) :
    pool.acquire.1.content = {} ∧ pool.acquire.2 = { config, idle := [] } := by
  obtain ⟨poolConfig, idle⟩ := pool
  obtain rfl : poolConfig = config := settled.config_eq
  cases idle with
  | nil => exact ⟨rfl, rfl⟩
  | cons context others =>
    have noOthers : others = [] := by
      have atMostOne : others.length + 1 ≤ min 1 poolConfig.maxIdle := settled.idleCount_le
      apply List.eq_nil_of_length_eq_zero
      omega
    subst noOthers
    exact ⟨settled.clear context List.mem_cons_self, rfl⟩

/-- A pool without idle contexts is settled again when a context has come back, whatever was written
to it. -/
theorem settled_release (context : StoredContext Room mode) :
    Settled config (Pool.release { config, idle := [] } context) := by
  unfold release
  split
  · next keeps =>
    have mayKeep : 0 < config.maxIdle := by
      simp only [Bool.and_eq_true, decide_eq_true_eq] at keeps
      exact keeps.2
    refine ⟨rfl, ?_, ?_⟩
    · change 1 ≤ min 1 config.maxIdle
      omega
    · intro kept idle
      obtain rfl := List.mem_singleton.mp idle
      rfl
  · exact settled_empty

theorem render_eq (pool : Pool (StoredContext Room mode)) (node : Node) :
    pool.render node.write =
      (node.script.ending (Sink.addAll pool.acquire.1 node.script.pieces).content,
        pool.acquire.2.release (Sink.addAll pool.acquire.1 node.script.pieces)) := by
  unfold Pool.render Script.ending
  simp only [Node.run_write_eq_outcome, Script.outcome]
  cases node.script.violation <;> rfl

/-- A render through a settled pool gives what a fresh context gives, and leaves the pool settled,
also when it breaks off. -/
theorem Settled.render {pool : Pool (StoredContext Room mode)} (settled : pool.Settled config)
    (node : Node) :
    (pool.render node.write).1 = node.render mode ∧
      (pool.render node.write).2.Settled config := by
  obtain ⟨clear, restEq⟩ := settled.acquire
  rw [render_eq, node.render_eq_ending]
  constructor
  · rw [StoredContext.content_addAll, clear]
  · rw [restEq]
    exact settled_release _

end Pool

/-! ## Renderers -/

namespace Renderer

variable {config : PoolConfig}

theorem pool_withPool_same (renderer : Renderer Room) (mode : RenderMode)
    (pool : Pool (StoredContext Room mode)) : (renderer.withPool mode pool).pool mode = pool := by
  cases mode <;> rfl

theorem pool_withPool_other (renderer : Renderer Room) {mode other : RenderMode}
    (pool : Pool (StoredContext Room mode)) (differs : other ≠ mode) :
    (renderer.withPool mode pool).pool other = renderer.pool other := by
  cases mode <;> cases other <;> simp [withPool, Renderer.pool] at differs ⊢

/-- All three pools are settled. -/
def Settled (config : PoolConfig) (renderer : Renderer Room) : Prop :=
  ∀ mode, (renderer.pool mode).Settled config

theorem settled_ofConfig (config : PoolConfig) :
    (ofConfig config : Renderer Room).Settled config := by
  intro mode
  cases mode <;> exact Pool.settled_empty

theorem Settled.withPool {renderer : Renderer Room} (settled : renderer.Settled config)
    {mode : RenderMode} {pool : Pool (StoredContext Room mode)}
    (poolSettled : pool.Settled config) : (renderer.withPool mode pool).Settled config := by
  intro other
  by_cases same : other = mode
  · subst same
    rw [pool_withPool_same]
    exact poolSettled
  · rw [pool_withPool_other renderer pool same]
    exact settled other

end Renderer

/-- A call of a renderer: the node, the mode, and the way in which room grows and is measured during
the call. -/
structure RenderCall (Room : Type) where
  node : Node
  mode : RenderMode
  storage : Storage Room

namespace RenderCall

variable {config : PoolConfig}

def run (call : RenderCall Room) (renderer : Renderer Room) :
    Except Violation (Context call.mode) × Renderer Room :=
  let _ := call.storage
  renderer.render call.node call.mode

/-- The renderer after the calls, made one after the other. -/
def runAll (calls : List (RenderCall Room)) (renderer : Renderer Room) : Renderer Room :=
  calls.foldl (fun current call => (call.run current).2) renderer

/-- A call on a settled renderer gives what a fresh context gives, and leaves the renderer settled.
-/
theorem settled_run (call : RenderCall Room) {renderer : Renderer Room}
    (settled : renderer.Settled config) :
    (call.run renderer).1 = call.node.render call.mode ∧
      (call.run renderer).2.Settled config := by
  let _ := call.storage
  obtain ⟨outcome, poolSettled⟩ := (settled call.mode).render call.node
  exact ⟨outcome, settled.withPool poolSettled⟩

theorem settled_runAll (calls : List (RenderCall Room)) {renderer : Renderer Room}
    (settled : renderer.Settled config) : (runAll calls renderer).Settled config := by
  induction calls generalizing renderer with
  | nil => exact settled
  | cons call rest ih => exact ih (call.settled_run settled).2

/-- Whatever calls were made before, and whatever room the contexts are measured to have, a call of
a renderer gives what rendering the node by itself gives, the violation included.  Afterwards each
pool holds at most one idle context, and none if none may be kept; the pools of the other modes are
as before. -/
theorem run_after_calls (config : PoolConfig) (calls : List (RenderCall Room))
    (call : RenderCall Room) :
    (call.run (runAll calls (.ofConfig config))).1 = call.node.render call.mode ∧
    (∀ mode, ((call.run (runAll calls (.ofConfig config))).2.pool mode).idleCount ≤
      min 1 config.maxIdle) ∧
    (∀ mode, mode ≠ call.mode →
      (call.run (runAll calls (.ofConfig config))).2.pool mode =
        (runAll calls (.ofConfig config)).pool mode) := by
  have start : (Renderer.ofConfig config : Renderer Room).Settled config :=
    Renderer.settled_ofConfig config
  have settled := settled_runAll calls start
  obtain ⟨outcome, settledAfter⟩ := call.settled_run settled
  refine ⟨outcome, ?_, ?_⟩
  · intro mode
    exact (settledAfter mode).idleCount_le
  · intro mode differs
    exact Renderer.pool_withPool_other _ _ differs

end RenderCall

end SqlTree
