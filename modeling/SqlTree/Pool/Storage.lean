import SqlTree.Pool.Basic
import SqlTree.Render.Sink

/-!
# Contexts with storage

A pooled context has room for text and for values, which grows as it is written to and is kept
when it is cleared.  How the room grows is a policy of its own; the one in use doubles it.
-/

namespace SqlTree

/-- The room of a context for bytes of text and for values, and how it changes when `added` more are
put behind the `used` ones. -/
class Storage (Room : Type) where
  empty : Room
  addText : Room → (used added : Nat) → Room
  addValues : Room → (used added : Nat) → Room
  textCapacity : Room → Nat
  valueCapacity : Room → Nat

/-- Room that is at least doubled whenever it does not suffice. -/
structure DoublingRoom where
  text : Nat := 0
  values : Nat := 0
  deriving DecidableEq, Repr

/-- The capacity after growth to what is needed: unchanged where it suffices, else the greatest of
twice the capacity, the need and a least size. -/
def grownCapacity (least capacity need : Nat) : Nat :=
  if need ≤ capacity then capacity else max (max (2 * capacity) need) least

instance : Storage DoublingRoom where
  empty := {}
  addText room used added := { room with text := grownCapacity 8 room.text (used + added) }
  addValues room used added := { room with values := grownCapacity 4 room.values (used + added) }
  textCapacity room := room.text
  valueCapacity room := room.values

/-- A context and its room. -/
structure StoredContext (Room : Type) (mode : RenderMode) where
  content : Context mode
  room : Room

namespace StoredContext

variable {Room : Type} [Storage Room] {mode : RenderMode}

def fresh : StoredContext Room mode :=
  ⟨{}, Storage.empty⟩

/-- The context without its text and its values, but with its room. -/
def clear (context : StoredContext Room mode) : StoredContext Room mode :=
  { context with content := {} }

def write (context : StoredContext Room mode) (text : String) : StoredContext Room mode :=
  { content := context.content.write text
    room := Storage.addText context.room context.content.sql.utf8ByteSize text.utf8ByteSize }

/-- The context with a value bound: its texts are added one by one, and room is made for what is
kept of it. -/
def bind (context : StoredContext Room mode) (value : Scalar) : StoredContext Room mode :=
  let texts := context.content.bindTexts value
  let written := texts.foldl write context
  { content := context.content.bind value
    room := Storage.addValues written.room context.content.arguments.length
      (context.content.bindArguments value).length }

def add (context : StoredContext Room mode) : Piece → StoredContext Room mode
  | .text text => context.write text
  | .bind value => context.bind value

def addAll (context : StoredContext Room mode) (pieces : List Piece) : StoredContext Room mode :=
  pieces.foldl add context

instance : Sink (StoredContext Room mode) where
  write := write
  bind := bind

instance : Reusable (StoredContext Room mode) where
  fresh := fresh
  clear := clear
  bufferCapacity context := Storage.textCapacity context.room
  valueCapacity context := Storage.valueCapacity context.room

end StoredContext

end SqlTree
