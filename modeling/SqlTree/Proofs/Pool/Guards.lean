import Mathlib.Data.List.Nodup
import Mathlib.Data.List.Perm.Basic
import SqlTree.Pool.Session
import SqlTree.Pool.Storage
import SqlTree.Proofs.Render.Modes

/-!
# Guards do not share contexts

Any number of contexts may be out of a pool at one time, each held under a slot of its own.  However
acquiring, writing, binding and releasing are interleaved, every context is in one place at a time,
what is written to one of them does not show in another, and the idle ones are clear and within the
limits of the pool.

To tell contexts with the same content apart, each is labelled by the step that made it.  The label
is part of the room, which the pool neither reads nor changes.  How room grows is up to every single
step; only the way in which it is measured is fixed.
-/

namespace SqlTree

variable {Room : Type} {mode : RenderMode}

/-! ## Labelled room -/

/-- The capacities that a room is measured to have. -/
structure RoomMeasure (Room : Type) where
  text : Room → Nat
  values : Room → Nat

/-- The room of a new context, and what becomes of room when `added` more bytes of text or values
are put behind the `used` ones. -/
structure RoomGrowth (Room : Type) where
  empty : Room
  addText : Room → (used added : Nat) → Room
  addValues : Room → (used added : Nat) → Room

/-- A room and the label of the context it belongs to. -/
structure Labelled (Room : Type) where
  label : Nat
  room : Room

/-- A context with a label. -/
abbrev LabelledContext (Room : Type) (mode : RenderMode) : Type :=
  StoredContext (Labelled Room) mode

def StoredContext.label (context : LabelledContext Room mode) : Nat :=
  context.room.label

/-- Storage in which new contexts get the given label and all others keep theirs. -/
@[reducible]
def RoomGrowth.storage (growth : RoomGrowth Room) (measure : RoomMeasure Room) (label : Nat) :
    Storage (Labelled Room) where
  empty := ⟨label, growth.empty⟩
  addText owned used added := ⟨owned.label, growth.addText owned.room used added⟩
  addValues owned used added := ⟨owned.label, growth.addValues owned.room used added⟩
  textCapacity owned := measure.text owned.room
  valueCapacity owned := measure.values owned.room

namespace RoomMeasure

/-- The context is measured to have no more room than an idle one may have. -/
def Admits (measure : RoomMeasure Room) (config : PoolConfig)
    (context : LabelledContext Room mode) : Prop :=
  measure.text context.room.room ≤ config.maxBufferCapacity ∧
    measure.values context.room.room ≤ config.maxValues

instance (measure : RoomMeasure Room) (config : PoolConfig) (context : LabelledContext Room mode) :
    Decidable (measure.Admits config context) :=
  inferInstanceAs (Decidable (_ ∧ _))

end RoomMeasure

/-! ## Pools -/

/-- The idle contexts are not too many, and each of them is clear and within the limits. -/
structure Pool.Orderly (measure : RoomMeasure Room) (config : PoolConfig)
    (pool : Pool (LabelledContext Room mode)) : Prop where
  config_eq : pool.config = config
  idleCount_le : pool.idleCount ≤ config.maxIdle
  clear : ∀ context ∈ pool.idle, context.content = {}
  within : ∀ context ∈ pool.idle, measure.Admits config context

namespace Pool

variable {measure : RoomMeasure Room} {config : PoolConfig}

def labels (pool : Pool (LabelledContext Room mode)) : List Nat :=
  pool.idle.map StoredContext.label

theorem orderly_empty :
    Orderly measure config ({ config } : Pool (LabelledContext Room mode)) where
  config_eq := rfl
  idleCount_le := Nat.zero_le _
  clear context idle := by cases idle
  within context idle := by cases idle

section Steps

variable (growth : RoomGrowth Room) (label : Nat)

/-- An acquired context is clear, and the pool is left as orderly as it was. -/
theorem Orderly.acquire {pool : Pool (LabelledContext Room mode)}
    (orderly : pool.Orderly measure config) :
    let _ := growth.storage measure label
    pool.acquire.1.content = {} ∧ pool.acquire.2.Orderly measure config := by
  intro storage
  obtain ⟨poolConfig, idle⟩ := pool
  cases idle with
  | nil => exact ⟨rfl, orderly⟩
  | cons context rest =>
    have fewer : rest.length + 1 ≤ config.maxIdle := orderly.idleCount_le
    refine ⟨orderly.clear context List.mem_cons_self, orderly.config_eq, ?_, ?_, ?_⟩
    · change rest.length ≤ config.maxIdle
      omega
    · intro other idle
      exact orderly.clear other (List.mem_cons_of_mem context idle)
    · intro other idle
      exact orderly.within other (List.mem_cons_of_mem context idle)

/-- Acquiring takes an idle context out of the pool or makes one with a new label. -/
theorem labels_acquire (measure : RoomMeasure Room) (pool : Pool (LabelledContext Room mode)) :
    let _ := growth.storage measure label
    pool.acquire.1.label :: pool.acquire.2.labels = pool.labels ∨
      pool.acquire.1.label = label ∧ pool.acquire.2 = pool := by
  intro storage
  obtain ⟨poolConfig, idle⟩ := pool
  cases idle with
  | nil => exact .inr ⟨rfl, rfl⟩
  | cons context rest => exact .inl rfl

theorem idleCount_acquire (measure : RoomMeasure Room)
    (pool : Pool (LabelledContext Room mode)) :
    let _ := growth.storage measure label
    pool.acquire.2.idleCount = pool.idleCount - 1 := by
  intro storage
  obtain ⟨poolConfig, idle⟩ := pool
  cases idle <;> rfl

/-- A context that comes back is kept, cleared, if it is within the limits and the pool is not full.
-/
theorem release_eq {pool : Pool (LabelledContext Room mode)} (configEq : pool.config = config)
    (context : LabelledContext Room mode) :
    let _ := growth.storage measure label
    pool.release context =
      if measure.Admits config context ∧ pool.idleCount < config.maxIdle then
        { pool with idle := context.clear :: pool.idle }
      else pool := by
  intro storage
  subst configEq
  simp only [release, admits, RoomMeasure.Admits, Bool.and_eq_true, decide_eq_true_eq]
  rfl

theorem idleCount_release {pool : Pool (LabelledContext Room mode)}
    (configEq : pool.config = config) (context : LabelledContext Room mode) :
    let _ := growth.storage measure label
    (pool.release context).idleCount =
      if measure.Admits config context ∧ pool.idleCount < config.maxIdle then pool.idleCount + 1
      else pool.idleCount := by
  intro storage
  rw [release_eq growth label configEq]
  split <;> rfl

theorem Orderly.release {pool : Pool (LabelledContext Room mode)}
    (orderly : pool.Orderly measure config) (context : LabelledContext Room mode) :
    let _ := growth.storage measure label
    (pool.release context).Orderly measure config := by
  intro storage
  rw [release_eq growth label orderly.config_eq]
  split
  · next keeps =>
    obtain ⟨admitted, notFull⟩ := keeps
    refine ⟨orderly.config_eq, notFull, ?_, ?_⟩
    · intro kept idle
      rcases List.mem_cons.mp idle with rfl | idle
      · rfl
      · exact orderly.clear kept idle
    · intro kept idle
      rcases List.mem_cons.mp idle with rfl | idle
      · exact admitted
      · exact orderly.within kept idle
  · exact orderly

/-- At most the label of the context that comes back is added. -/
theorem labels_release_sublist (measure : RoomMeasure Room)
    (pool : Pool (LabelledContext Room mode)) (context : LabelledContext Room mode) :
    let _ := growth.storage measure label
    (pool.release context).labels.Sublist (context.label :: pool.labels) := by
  intro storage
  rw [release_eq growth label rfl]
  split
  · exact .refl _
  · exact .cons _ (.refl _)

end Steps

end Pool

/-! ## Sessions -/

namespace PoolSession

/-- The session at the start, in which nothing is held and nothing is idle. -/
def start (config : PoolConfig) : PoolSession (LabelledContext Room mode) :=
  { pool := { config } }

/-- The labels of the contexts that are idle or held. -/
def labels (session : PoolSession (LabelledContext Room mode)) : List Nat :=
  session.pool.labels ++ session.held.map fun entry => entry.2.label

/-- The pool is orderly, no two guards have the same slot, and no context is in two places.  All
labels given so far are below the bound. -/
structure Orderly (measure : RoomMeasure Room) (config : PoolConfig) (bound : Nat)
    (session : PoolSession (LabelledContext Room mode)) : Prop where
  pool : session.pool.Orderly measure config
  slots_nodup : (session.held.map Prod.fst).Nodup
  labels_nodup : session.labels.Nodup
  labels_lt : ∀ label ∈ session.labels, label < bound

section Slots

variable {Context : Type}

theorem lookup_cons_ne {held : List (String × Context)} {slot other : String}
    (differs : other ≠ slot) (context : Context) :
    ((slot, context) :: held).lookup other = held.lookup other := by
  simp [List.lookup_cons, beq_false_of_ne differs]

/-- A held context stands in one entry, next to those of the other slots. -/
theorem perm_held {held : List (String × Context)} (slotsNodup : (held.map Prod.fst).Nodup)
    {slot : String} {context : Context} (found : held.lookup slot = some context) :
    held.Perm ((slot, context) :: held.filter fun entry => entry.1 != slot) := by
  induction held with
  | nil => cases found
  | cons entry rest ih =>
    obtain ⟨other, otherContext⟩ := entry
    obtain ⟨notAgain, restNodup⟩ := List.nodup_cons.mp slotsNodup
    by_cases same : slot = other
    · subst same
      have keepsRest : (rest.filter fun entry => entry.1 != slot) = rest := by
        apply List.filter_eq_self.mpr
        intro entry member
        have differs : entry.1 ≠ slot := by
          intro equal
          have again : entry.1 ∈ rest.map Prod.fst := List.mem_map_of_mem member
          rw [equal] at again
          exact notAgain again
        simpa using differs
      have contextEq : otherContext = context := by simpa [List.lookup_cons] using found
      simp [keepsRest, contextEq]
    · rw [lookup_cons_ne same] at found
      have keepsEntry : (other != slot) = true := bne_iff_ne.mpr (Ne.symm same)
      rw [List.filter_cons, if_pos keepsEntry]
      exact ((ih restNodup found).cons _).trans (.swap _ _ _)

theorem lookup_filter_of_ne (held : List (String × Context)) {slot other : String}
    (differs : other ≠ slot) :
    (held.filter fun entry => entry.1 != slot).lookup other = held.lookup other := by
  induction held with
  | nil => rfl
  | cons entry rest ih =>
    obtain ⟨key, context⟩ := entry
    by_cases same : key = slot
    · subst same
      rw [lookup_cons_ne differs]
      simpa using ih
    · have keepsEntry : (key != slot) = true := bne_iff_ne.mpr same
      rw [List.filter_cons, if_pos keepsEntry]
      simp only [List.lookup_cons, ih]

theorem held?_modify_same (session : PoolSession Context) (slot : String)
    (change : Context → Context) :
    (session.modify slot change).held? slot = (session.held? slot).map change := by
  obtain ⟨pool, held⟩ := session
  simp only [modify, held?]
  induction held with
  | nil => rfl
  | cons entry rest ih =>
    obtain ⟨key, context⟩ := entry
    by_cases same : slot = key
    · subst same
      simp
    · rw [List.map_cons, if_neg (by simpa using Ne.symm same), lookup_cons_ne same,
        lookup_cons_ne same, ih]

theorem held?_modify_other (session : PoolSession Context) {slot other : String}
    (differs : other ≠ slot) (change : Context → Context) :
    (session.modify slot change).held? other = session.held? other := by
  obtain ⟨pool, held⟩ := session
  simp only [modify, held?]
  induction held with
  | nil => rfl
  | cons entry rest ih =>
    obtain ⟨key, context⟩ := entry
    by_cases same : key = slot
    · subst same
      rw [List.map_cons, if_pos (by simp), lookup_cons_ne differs, lookup_cons_ne differs, ih]
    · rw [List.map_cons, if_neg (by simpa using same)]
      simp only [List.lookup_cons, ih]

end Slots

section Steps

variable {measure : RoomMeasure Room} {config : PoolConfig} {bound : Nat}

theorem orderly_start :
    Orderly measure config 0 (start config : PoolSession (LabelledContext Room mode)) where
  pool := Pool.orderly_empty
  slots_nodup := .nil
  labels_nodup := .nil
  labels_lt label member := by cases member

variable (growth : RoomGrowth Room) {session : PoolSession (LabelledContext Room mode)}

/-- Writing to a held context changes neither its slot nor its label. -/
theorem Orderly.modify (orderly : session.Orderly measure config bound) (slot : String)
    {change : LabelledContext Room mode → LabelledContext Room mode}
    (keepsLabel : ∀ context, (change context).label = context.label) :
    (session.modify slot change).Orderly measure config bound := by
  have sameSlots :
      (session.modify slot change).held.map Prod.fst = session.held.map Prod.fst := by
    simp only [PoolSession.modify, List.map_map]
    apply List.map_congr_left
    intro entry _
    simp only [Function.comp_apply]
    split <;> rfl
  have sameLabels : (session.modify slot change).labels = session.labels := by
    simp only [labels, PoolSession.modify, List.map_map]
    congr 1
    apply List.map_congr_left
    intro entry _
    simp only [Function.comp_apply]
    split
    · exact keepsLabel entry.2
    · rfl
  constructor
  · exact orderly.pool
  · rw [sameSlots]
    exact orderly.slots_nodup
  · rw [sameLabels]
    exact orderly.labels_nodup
  · rw [sameLabels]
    exact orderly.labels_lt

/-- Releasing moves a context from its slot to the idle ones, or drops it. -/
theorem Orderly.labels_release (orderly : session.Orderly measure config bound) (label : Nat)
    (slot : String) :
    let _ := growth.storage measure label
    (session.release slot).labels.Subperm session.labels := by
  intro storage
  unfold PoolSession.release
  cases found : session.held? slot with
  | none => exact .refl _
  | some context =>
    have heldPerm := (perm_held orderly.slots_nodup found).map fun entry => entry.2.label
    have idleSublist := session.pool.labels_release_sublist growth label measure context
    have moved := @List.perm_middle _ context.label session.pool.labels
      ((session.held.filter fun entry => entry.1 != slot).map fun entry => entry.2.label)
    exact (idleSublist.append_right _).subperm.trans
      (moved.symm.trans (heldPerm.symm.append_left session.pool.labels)).subperm

theorem Orderly.release (orderly : session.Orderly measure config bound) (label : Nat)
    (slot : String) :
    let _ := growth.storage measure label
    (session.release slot).Orderly measure config bound := by
  intro storage
  have fewerLabels := orderly.labels_release growth label slot
  refine ⟨?_, ?_, ?_, ?_⟩
  · unfold PoolSession.release
    split
    · exact orderly.pool
    · next context _ => exact orderly.pool.release growth label context
  · unfold PoolSession.release
    split
    · exact orderly.slots_nodup
    · exact orderly.slots_nodup.sublist (List.filter_sublist.map Prod.fst)
  · obtain ⟨kept, perm, sublist⟩ := fewerLabels
    exact perm.nodup_iff.mp (orderly.labels_nodup.sublist sublist)
  · intro known member
    exact orderly.labels_lt known (fewerLabels.subset member)

/-- The context that is acquired is in no other place. -/
theorem Orderly.taken (orderly : session.Orderly measure config bound) :
    let _ := growth.storage measure bound
    let taken := { session with pool := session.pool.acquire.2 }
    taken.Orderly measure config (bound + 1) ∧
      session.pool.acquire.1.label ∉ taken.labels ∧ session.pool.acquire.1.label < bound + 1 := by
  intro storage taken
  have poolOrderly : taken.pool.Orderly measure config :=
    (orderly.pool.acquire growth bound).2
  rcases session.pool.labels_acquire growth bound measure with reused | ⟨made, same⟩
  · have labelsEq : session.labels = session.pool.acquire.1.label :: taken.labels := by
      rw [labels, ← reused]
      rfl
    have labelsNodup := orderly.labels_nodup
    have labelsLt := orderly.labels_lt
    rw [labelsEq] at labelsNodup labelsLt
    obtain ⟨elsewhere, restNodup⟩ := List.nodup_cons.mp labelsNodup
    refine ⟨⟨poolOrderly, orderly.slots_nodup, restNodup, ?_⟩, elsewhere, ?_⟩
    · intro known member
      exact Nat.lt_succ_of_lt (labelsLt known (List.mem_cons_of_mem _ member))
    · exact Nat.lt_succ_of_lt (labelsLt _ List.mem_cons_self)
  · have takenEq : taken = session := by
      change { session with pool := session.pool.acquire.2 } = session
      rw [same]
    rw [takenEq, made]
    refine ⟨⟨orderly.pool, orderly.slots_nodup, orderly.labels_nodup, ?_⟩, ?_, ?_⟩
    · intro known member
      exact Nat.lt_succ_of_lt (orderly.labels_lt known member)
    · intro member
      exact Nat.lt_irrefl bound (orderly.labels_lt bound member)
    · exact Nat.lt_succ_self bound

/-- Nothing is held under a slot that was released. -/
theorem slot_notMem_release [Reusable (LabelledContext Room mode)]
    (session : PoolSession (LabelledContext Room mode)) (slot : String) :
    slot ∉ (session.release slot).held.map Prod.fst := by
  unfold PoolSession.release
  cases found : session.held? slot with
  | none =>
    intro member
    obtain ⟨entry, entryMem, rfl⟩ := List.mem_map.mp member
    have differs := List.lookup_eq_none_iff.mp found entry entryMem
    simp at differs
  | some context => simp

theorem Orderly.acquire (orderly : session.Orderly measure config bound) (slot : String) :
    let _ := growth.storage measure bound
    (session.acquire slot).Orderly measure config (bound + 1) := by
  intro storage
  obtain ⟨takenOrderly, elsewhere, labelLt⟩ := orderly.taken growth
  have released := takenOrderly.release growth bound slot
  have fewerLabels := (takenOrderly.labels_release growth bound slot).subset
  have labelsPerm : (session.acquire slot).labels.Perm
      (session.pool.acquire.1.label ::
        (PoolSession.release { session with pool := session.pool.acquire.2 } slot).labels) :=
    List.perm_middle
  refine ⟨released.pool, ?_, ?_, ?_⟩
  · exact List.nodup_cons.mpr ⟨slot_notMem_release _ slot, released.slots_nodup⟩
  · refine labelsPerm.nodup_iff.mpr (List.nodup_cons.mpr ⟨?_, released.labels_nodup⟩)
    exact fun member => elsewhere (fewerLabels member)
  · intro known member
    rcases List.mem_cons.mp (labelsPerm.subset member) with rfl | member
    · exact labelLt
    · exact released.labels_lt known member

end Steps

/-! ## What a step shows -/

section Views

variable [Reusable (LabelledContext Room mode)]
  (session : PoolSession (LabelledContext Room mode)) {slot : String}

theorem held?_acquire (slot : String) :
    (session.acquire slot).held? slot = some session.pool.acquire.1 := by
  simp [held?, PoolSession.acquire]

theorem held?_release_other {other : String} (differs : other ≠ slot) :
    (session.release slot).held? other = session.held? other := by
  unfold PoolSession.release
  split
  · rfl
  · exact lookup_filter_of_ne session.held differs

theorem held?_acquire_other {other : String} (differs : other ≠ slot) :
    (session.acquire slot).held? other = session.held? other := by
  simp only [held?, PoolSession.acquire, lookup_cons_ne differs]
  exact held?_release_other _ differs

theorem pool_acquire (free : session.held? slot = none) :
    (session.acquire slot).pool = session.pool.acquire.2 := by
  have stillFree :
      PoolSession.held? { session with pool := session.pool.acquire.2 } slot = none := free
  simp only [PoolSession.acquire, PoolSession.release, stillFree]

theorem pool_release {context : LabelledContext Room mode}
    (held : session.held? slot = some context) :
    (session.release slot).pool = session.pool.release context := by
  simp only [PoolSession.release, held]

end Views

end PoolSession

/-! ## Runs -/

/-- What can be done with a pool and the guards of its contexts. -/
inductive GuardAction where
  | acquire (slot : String)
  | write (slot text : String)
  | bind (slot : String) (value : Scalar)
  | release (slot : String)

/-- The slot of the guard that the action is about. -/
def GuardAction.slot : GuardAction → String
  | acquire slot => slot
  | write slot _ => slot
  | bind slot _ => slot
  | release slot => slot

/-- An action, and the way in which room grows during it. -/
structure GuardStep (Room : Type) where
  action : GuardAction
  growth : RoomGrowth Room

namespace GuardStep

variable (measure : RoomMeasure Room)

/-- The session after the step.  A context that the step makes gets the label. -/
def run (step : GuardStep Room) (label : Nat) (session : PoolSession (LabelledContext Room mode)) :
    PoolSession (LabelledContext Room mode) :=
  let _ := step.growth.storage measure label
  match step.action with
  | .acquire slot => session.acquire slot
  | .write slot text => session.modify slot fun context => Sink.write context text
  | .bind slot value => session.modify slot fun context => Sink.bind context value
  | .release slot => session.release slot

/-- The session after the steps, which are numbered from the label on. -/
def runAll : List (GuardStep Room) → (label : Nat) → PoolSession (LabelledContext Room mode) →
    PoolSession (LabelledContext Room mode)
  | [], _, session => session
  | step :: rest, label, session => runAll rest (label + 1) (step.run measure label session)

variable {measure} {config : PoolConfig}

theorem label_write (growth : RoomGrowth Room) (label : Nat)
    (context : LabelledContext Room mode) (text : String) :
    let _ := growth.storage measure label
    (context.write text).label = context.label :=
  rfl

theorem label_bind (growth : RoomGrowth Room) (label : Nat) (context : LabelledContext Room mode)
    (value : Scalar) :
    let _ := growth.storage measure label
    (context.bind value).label = context.label := by
  intro storage
  have writesKeep (texts : List String) (start : LabelledContext Room mode) :
      (texts.foldl StoredContext.write start).label = start.label := by
    induction texts generalizing start with
    | nil => rfl
    | cons text rest ih => exact ih (start.write text)
  exact writesKeep (context.content.bindTexts value) context

/-- Whatever the step does, the session stays orderly. -/
theorem orderly_run (step : GuardStep Room) {label : Nat}
    {session : PoolSession (LabelledContext Room mode)}
    (orderly : session.Orderly measure config label) :
    (step.run measure label session).Orderly measure config (label + 1) := by
  have weaken {other : PoolSession (LabelledContext Room mode)}
      (otherOrderly : other.Orderly measure config label) :
      other.Orderly measure config (label + 1) :=
    { otherOrderly with
      labels_lt := fun known member => Nat.lt_succ_of_lt (otherOrderly.labels_lt known member) }
  obtain ⟨action, growth⟩ := step
  cases action with
  | acquire slot => exact orderly.acquire growth slot
  | write slot text =>
    exact weaken (orderly.modify slot fun context => label_write growth label context text)
  | bind slot value =>
    exact weaken (orderly.modify slot fun context => label_bind growth label context value)
  | release slot => exact weaken (orderly.release growth label slot)

/-- A step shows in its own guard only. -/
theorem held?_run_other (step : GuardStep Room) (label : Nat)
    (session : PoolSession (LabelledContext Room mode)) {other : String}
    (differs : other ≠ step.action.slot) :
    (step.run measure label session).held? other = session.held? other := by
  let _ := step.growth.storage measure label
  obtain ⟨action, growth⟩ := step
  cases action with
  | acquire slot => exact session.held?_acquire_other differs
  | write slot text => exact session.held?_modify_other differs _
  | bind slot value => exact session.held?_modify_other differs _
  | release slot => exact session.held?_release_other differs

theorem orderly_runAll (steps : List (GuardStep Room)) {label : Nat}
    {session : PoolSession (LabelledContext Room mode)}
    (orderly : session.Orderly measure config label) :
    (runAll measure steps label session).Orderly measure config (label + steps.length) := by
  induction steps generalizing label session with
  | nil => exact orderly
  | cons step rest ih =>
    have ran := ih (step.orderly_run orderly)
    rw [Nat.add_assoc, Nat.add_comm 1] at ran
    exact ran

/-- After any steps, no more contexts are idle than may be, each idle one is clear and within the
limits, and no context is in two places: idle and held, or held by two guards.

Of a further step this can be said.  It leaves the contexts of all other guards as they are.  An
acquired context is clear and begins to count its values again; what is written or bound comes
behind what the guard shows already.  Acquiring for a new guard lowers the number of idle contexts
by one if there is one, and releasing raises it by one exactly if the context is within the limits
and the pool is not full. -/
theorem guards_after_steps (measure : RoomMeasure Room) (config : PoolConfig)
    (steps : List (GuardStep Room)) :
    let session : PoolSession (LabelledContext Room mode) :=
      runAll measure steps 0 (.start config)
    let after (action : GuardAction) (growth : RoomGrowth Room) :=
      run measure ⟨action, growth⟩ steps.length session
    session.pool.idleCount ≤ config.maxIdle ∧
    (∀ context ∈ session.pool.idle, context.content = {} ∧
      measure.text context.room.room ≤ config.maxBufferCapacity ∧
      measure.values context.room.room ≤ config.maxValues) ∧
    ((session.pool.idle ++ session.held.map Prod.snd).map StoredContext.label).Nodup ∧
    (session.held.map Prod.fst).Nodup ∧
    ∀ growth : RoomGrowth Room,
      (∀ action other, other ≠ action.slot →
        (after action growth).held? other = session.held? other) ∧
      (∀ slot, ∃ context, (after (.acquire slot) growth).held? slot = some context ∧
        context.content = {} ∧
        ∀ value, Sink.bind context.content value =
          { sql := mode.mark 1 value, arguments := mode.arguments 1 value }) ∧
      (∀ slot context, session.held? slot = some context →
        (∀ text, ∃ written, (after (.write slot text) growth).held? slot = some written ∧
          written.content = Sink.write context.content text) ∧
        (∀ value, ∃ written, (after (.bind slot value) growth).held? slot = some written ∧
          written.content = Sink.bind context.content value)) ∧
      (∀ slot, session.held? slot = none →
        (after (.acquire slot) growth).pool.idleCount = session.pool.idleCount - 1) ∧
      (∀ slot context, session.held? slot = some context →
        (after (.release slot) growth).pool.idleCount =
          if (measure.text context.room.room ≤ config.maxBufferCapacity ∧
              measure.values context.room.room ≤ config.maxValues) ∧
              session.pool.idleCount < config.maxIdle then
            session.pool.idleCount + 1
          else session.pool.idleCount) := by
  intro session after
  have orderly : session.Orderly measure config steps.length := by
    have atStart : (PoolSession.start config : PoolSession (LabelledContext Room mode)).Orderly
        measure config 0 := PoolSession.orderly_start
    simpa using orderly_runAll steps atStart
  refine ⟨orderly.pool.idleCount_le, ?_, ?_, orderly.slots_nodup, fun growth => ?_⟩
  · intro context idle
    exact ⟨orderly.pool.clear context idle, orderly.pool.within context idle⟩
  · have labelsNodup := orderly.labels_nodup
    simpa [PoolSession.labels, Pool.labels, Function.comp_def] using labelsNodup
  let _ := growth.storage measure steps.length
  refine ⟨?_, ?_, ?_, ?_, ?_⟩
  · intro action other differs
    exact held?_run_other ⟨action, growth⟩ steps.length session differs
  · intro slot
    have clear := (orderly.pool.acquire growth steps.length).1
    refine ⟨_, session.held?_acquire slot, clear, fun value => ?_⟩
    rw [clear, Context.sink_bind]
    simp [Context.nextNumber]
  · intro slot context held
    constructor
    · intro text
      refine ⟨context.write text, ?_, rfl⟩
      change (session.modify slot fun other => other.write text).held? slot = _
      rw [session.held?_modify_same, held]
      rfl
    · intro value
      refine ⟨context.bind value, ?_, rfl⟩
      change (session.modify slot fun other => other.bind value).held? slot = _
      rw [session.held?_modify_same, held]
      rfl
  · intro slot free
    change (session.acquire slot).pool.idleCount = _
    rw [session.pool_acquire free]
    exact session.pool.idleCount_acquire growth steps.length measure
  · intro slot context held
    change (session.release slot).pool.idleCount = _
    rw [session.pool_release held]
    exact Pool.idleCount_release growth steps.length orderly.pool.config_eq context

end GuardStep

end SqlTree
