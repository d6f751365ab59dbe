import ObjectLocks.Text.Hex
import ObjectLocks.Word.Field

/-!
# Lock-state words

The lock-state word of an object tells in its two lowest bits how the object is locked, and keeps
the identity hash in the 31 bits from position 8 on. A zero hash field means that the object has not
been hashed. Changing the lock bits never touches the hash, and installing a hash never touches the
lock bits.

The same two bits tag the words that are addresses: the address of a lock record is aligned and so
reads as locked, the address of a monitor carries the monitor bits.
-/

namespace ObjectLocks

/-- How an object is locked, as told by the two lowest bits of its word. -/
inductive LockBits where
  /-- Locked without a monitor. -/
  | locked
  | unlocked
  | monitor
  /-- Never in a header: the mark of a lock record that is not in use. -/
  | marked
deriving DecidableEq, Repr

namespace LockBits

def toWord : LockBits → UInt64
  | locked => 0
  | unlocked => 1
  | monitor => 2
  | marked => 3

/-- The lock state of a two-bit value. -/
def ofWord (v : UInt64) : LockBits :=
  if v = 0 then locked else if v = 1 then unlocked else if v = 2 then monitor else marked

def name : LockBits → String
  | locked => "Locked"
  | unlocked => "Unlocked"
  | monitor => "Monitor"
  | marked => "Marked"

end LockBits

def lockField : Field := ⟨0, 2⟩

def hashField : Field := ⟨8, 31⟩

/-- The bits of a number that an identity hash keeps. -/
def hashMask : UInt32 := 0x7fffffff

structure LockWord where
  value : UInt64
deriving DecidableEq, Repr

namespace LockWord

/-- The word of an object that is neither locked nor hashed. -/
def fresh : LockWord := ⟨lockField.place LockBits.unlocked.toWord⟩

/-- The word that stands in a header while a monitor is being installed. -/
def inflating : LockWord := ⟨0⟩

/-- The word in a lock record whose lock went through a monitor. -/
def unused : LockWord := ⟨LockBits.marked.toWord⟩

instance : Inhabited LockWord := ⟨fresh⟩

def bits (w : LockWord) : LockBits := LockBits.ofWord (lockField.read w.value)

def isUnlocked (w : LockWord) : Bool := w.bits == .unlocked

/-- Locked without a monitor, with the hash in place. -/
def isFastLocked (w : LockWord) : Bool := w.bits == .locked

def isInflating (w : LockWord) : Bool := w == inflating

/-- Locked by the address of a record. -/
def isStackLocked (w : LockWord) : Bool := w.bits == .locked && !w.isInflating

def hasMonitor (w : LockWord) : Bool := w.bits == .monitor

/-- The identity hash in a word, zero if there is none. -/
def hash (w : LockWord) : UInt32 := (hashField.read w.value).toUInt32

def hasHash (w : LockWord) : Bool := w.hash != 0

/-- `w` with the low 31 bits of `h` as its hash. The mask makes the hash fit its field. -/
def withHash (w : LockWord) (h : UInt32) : LockWord :=
  ⟨hashField.put (h &&& hashMask).toUInt64 w.value⟩

def withBits (w : LockWord) (b : LockBits) : LockWord := ⟨lockField.put b.toWord w.value⟩

def setUnlocked (w : LockWord) : LockWord := w.withBits .unlocked

def setFastLocked (w : LockWord) : LockWord := w.withBits .locked

/-- Points the word at the monitor table, keeping the hash in place. -/
def setMonitor (w : LockWord) : LockWord := w.withBits .monitor

/-- The word of an object that is stack-locked with the record at `address`. -/
def ofRecord (address : UInt64) : LockWord := ⟨address⟩

/-- The address of the locking record. Only a stack-locked word has one. -/
def locker? (w : LockWord) : Option UInt64 := if w.isStackLocked then some w.value else none

/-- The word of an object whose monitor is at `address`. -/
def ofMonitor (address : UInt64) : LockWord := ⟨address ||| LockBits.monitor.toWord⟩

/-- The address of the monitor. Only a word with the monitor bits has one. -/
def monitor? (w : LockWord) : Option UInt64 :=
  if w.hasMonitor then some (w.value &&& ~~~lockField.maskInPlace) else none

def hex (w : LockWord) : String := hexText w.value.toNat

/-- The word with its lock state spelled out. -/
def describe (w : LockWord) : String := s!"LockStateWord({w.hex}, {w.bits.name})"

end LockWord

end ObjectLocks
