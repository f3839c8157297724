/-!
# Pool limits

A pool keeps a bounded number of idle contexts and none that has grown beyond given capacities.
Limits are read from named entries; an entry that is left out takes its default.
-/

namespace SqlTree

/-- The limits of a pool. -/
inductive PoolLimit where
  | idle
  | bufferCapacity
  | values
  deriving DecidableEq, Repr

namespace PoolLimit

def key : PoolLimit → String
  | idle => "max_idle"
  | bufferCapacity => "max_buffer_capacity"
  | values => "max_values"

/-- Every limit once, in the order in which configurations show them. -/
def all : List PoolLimit := [idle, bufferCapacity, values]

def ofKey? (key : String) : Option PoolLimit :=
  all.find? fun limit => limit.key == key

end PoolLimit

/-- How many idle contexts are kept, and how many bytes of text and how many values an idle
context may have room for. -/
structure PoolConfig where
  maxIdle : Nat := 16
  maxBufferCapacity : Nat := 65536
  maxValues : Nat := 1024
  deriving DecidableEq, Repr

namespace PoolConfig

def get (config : PoolConfig) : PoolLimit → Nat
  | .idle => config.maxIdle
  | .bufferCapacity => config.maxBufferCapacity
  | .values => config.maxValues

def set (config : PoolConfig) (limit : PoolLimit) (value : Nat) : PoolConfig :=
  match limit with
  | .idle => { config with maxIdle := value }
  | .bufferCapacity => { config with maxBufferCapacity := value }
  | .values => { config with maxValues := value }

/-- Limits are 64-bit words. -/
def isLimit (value : Nat) : Bool :=
  value < Nat.pow 2 64

/-- The configuration with the value of a named entry, where `none` stands for anything that is
not a natural number.  Entries with other names are passed over. -/
def setEntry? (config : PoolConfig) (key : String) (value : Option Nat) : Option PoolConfig :=
  match PoolLimit.ofKey? key with
  | none => some config
  | some limit =>
    match value with
    | some number => if isLimit number then some (config.set limit number) else none
    | none => none

/-- The configuration that the entries describe, unless one of them has no proper value. -/
def ofEntries? (entries : List (String × Option Nat)) : Option PoolConfig :=
  entries.foldlM (fun config entry => config.setEntry? entry.1 entry.2) {}

def json (config : PoolConfig) : String :=
  let entry (limit : PoolLimit) := "\"" ++ limit.key ++ "\":" ++ toString (config.get limit)
  "\x7b" ++ ",".intercalate (PoolLimit.all.map entry) ++ "\x7d"

def description (config : PoolConfig) : String :=
  let entry (limit : PoolLimit) := limit.key ++ ": " ++ toString (config.get limit)
  "PoolConfig \x7b " ++ ", ".intercalate (PoolLimit.all.map entry) ++ " \x7d"

end PoolConfig

end SqlTree
