import ObjectLocks.Text.Quoted
import ObjectLocks.Thread

/-!
# Heap objects

An object has a class, a header mark and a few word-sized slots. The mark is either a lock-state
word or an address: of the lock record that the object is stack-locked with, or of its monitor.
Records and monitors are known by number, so their addresses stay abstract. All that is said about
them is what their alignment and tag bits say: a record reads as locked, a monitor as locked by a
monitor.

Objects never move. An object's label stands for its identity wherever the object is shown.
-/

namespace ObjectLocks

/-- The class of an object. -/
structure Class where
  name : String
  slots : Nat
  /-- Instances have no stable identity and should never be locked. -/
  valueBased : Bool
deriving DecidableEq, Repr, Inhabited

/-- The class as it is shown to a programmer. -/
def Class.describe (c : Class) : String :=
  "Class \x7b name: " ++ Text.quoted c.name ++ ", value_based: " ++ toString c.valueBased ++ " \x7d"

/-- The header mark of an object. -/
inductive Mark where
  | word (w : LockWord)
  /-- The address of the lock record that the object is stack-locked with. -/
  | record (r : RecordId)
  | monitor (m : MonitorId)
deriving DecidableEq, Repr

namespace Mark

instance : Inhabited Mark := ⟨.word .fresh⟩

def bits : Mark → LockBits
  | word w => w.bits
  | record _ => .locked
  | monitor _ => .monitor

def isUnlocked (k : Mark) : Bool := k.bits == .unlocked

def isFastLocked (k : Mark) : Bool := k.bits == .locked

def hasMonitor (k : Mark) : Bool := k.bits == .monitor

/-- The monitor whose address the mark is. -/
def monitor? : Mark → Option MonitorId
  | monitor m => some m
  | word _ | record _ => none

/-- Changes a word and leaves an address alone. -/
def mapWord (f : LockWord → LockWord) : Mark → Mark
  | word w => word (f w)
  | record r => record r
  | monitor m => monitor m

/-- The word that a monitor keeps for the object while the mark is the monitor's address. -/
def displaced : Mark → LockWord
  | word w => w
  | record _ | monitor _ => .fresh

end Mark

structure Object where
  label : String
  type : Class
  mark : Mark
  slots : Array UInt64
deriving Inhabited

namespace Object

/-- A new object of class `c`: unlocked, not hashed, its slots zero. -/
def new (label : String) (c : Class) : Object :=
  ⟨label, c, .word .fresh, Array.replicate c.slots 0⟩

/-- The object as it is shown to a programmer. -/
def describe (o : Object) : String := o.type.name ++ "@" ++ o.label

end Object

end ObjectLocks
