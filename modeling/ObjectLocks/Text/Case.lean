import ObjectLocks.Text.CaseTable

/-!
# Letter case

Lower and upper case of whole texts. Most characters map to one character. A few upper-case forms
have several, as does the lower-case form of the dotted capital I. A capital sigma becomes the final
sigma at the end of a word: after a letter with case and not before one, where characters that case
ignores are passed over.
-/

namespace ObjectLocks.Text

/-- Whether one of the ranges holds `n`. -/
def inRanges (ranges : Array (Nat × Nat)) (n : Nat) : Bool :=
  ranges.any fun r => r.1 ≤ n && n ≤ r.2

/-- The character that a table of shifts maps `n` to. -/
def shifted (table : Array CaseShift) (n : Nat) : Nat :=
  match table.find? fun s => s.first ≤ n && n ≤ s.last && (n - s.first) % s.step == 0 with
  | some s => (n + s.distance).toNat
  | none => n

/-- Whether the first character that case does not ignore is a letter with case. -/
def meetsCased (cs : List Char) : Bool :=
  match cs.dropWhile fun c => inRanges caseIgnorableRanges c.toNat with
  | [] => false
  | c :: _ => inRanges casedRanges c.toNat

/-- The lower-case form of one character that is not a capital sigma. -/
def lowerChar (c : Char) : List Char :=
  if c = '\u0130' then ['i', '\u0307'] else [Char.ofNat (shifted lowerShifts c.toNat)]

/-- Lower case of the characters after `before`, which is kept in reverse. -/
def lowerFrom (before : List Char) : List Char → List Char
  | [] => []
  | c :: rest =>
    let mapped :=
      if c = '\u03a3' then
        if meetsCased before && !meetsCased rest then ['\u03c2'] else ['\u03c3']
      else lowerChar c
    mapped ++ lowerFrom (c :: before) rest

def lower (s : String) : String := String.ofList (lowerFrom [] s.toList)

def upperChar (c : Char) : List Char :=
  match upperExpansions.lookup c.toNat with
  | some expansion => expansion.map Char.ofNat
  | none => [Char.ofNat (shifted upperShifts c.toNat)]

def upper (s : String) : String := String.ofList (s.toList.flatMap upperChar)

end ObjectLocks.Text
