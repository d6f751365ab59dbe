import Mathlib.Data.List.Sort
import ObjectLocks.Proofs.ParseOutcome

/-!
# Successful parses

A parse that succeeds makes the assignments of the environment in the order in which its variables
are given, and after them those of the arguments, which are sorted by their bytes. What it leaves
depends on nothing else, so the arguments may come in any order. It is the last parse of the group.
-/

namespace ObjectLocks

namespace Text

/-- The bytes of a text. -/
def bytes (s : String) : List UInt8 := s.toUTF8.data.toList

/-- The bytes of a text are those of its characters. -/
lemma bytes_eq (s : String) : bytes s = s.toList.flatMap String.utf8EncodeChar := by
  rw [bytes, String.toUTF8_eq_toByteArray, ← String.utf8Encode_toList, List.utf8Encode,
    List.toList_data_toByteArray]

/-- A code point is made of four groups of bits. The lesser one of two is the one with the lesser
group where they differ first. -/
lemma groups_lt {m n : Nat} (less : m < n) (bound : n < 0x110000) :
    m / 262144 % 8 < n / 262144 % 8 ∨ m / 262144 % 8 = n / 262144 % 8 ∧
      (m / 4096 % 64 < n / 4096 % 64 ∨ m / 4096 % 64 = n / 4096 % 64 ∧
        (m / 64 % 64 < n / 64 % 64 ∨ m / 64 % 64 = n / 64 % 64 ∧ m % 64 < n % 64)) := by
  have groups {k : Nat} (bound : k < 0x110000) : k =
      262144 * (k / 262144 % 8) + 4096 * (k / 4096 % 64) + 64 * (k / 64 % 64) + k % 64 := by
    omega
  have groups_m := groups (less.trans bound)
  have groups_n := groups bound
  omega

/-- The bytes of the lesser character come first, whatever follows them. -/
lemma utf8EncodeChar_lt {c d : Char} (h : c < d) (l l' : List UInt8) :
    String.utf8EncodeChar c ++ l < String.utf8EncodeChar d ++ l' := by
  have less : c.val.toNat < d.val.toNat := h
  have bound : d.val.toNat < 0x110000 := by
    rcases d.valid with valid | valid <;> simp at * <;> omega
  have groups := groups_lt less bound
  unfold String.utf8EncodeChar
  dsimp only
  generalize c.val.toNat = m at *
  generalize d.val.toNat = n at *
  -- A character with fewer bytes is lesser, and its first byte is.
  split_ifs <;>
    simp only [List.cons_append, List.nil_append, List.cons_lt_cons_iff, UInt8.lt_iff_toNat_lt,
      ← UInt8.toNat_inj, UInt8.toNat_ofNat'] <;>
    simp (disch := omega) only [Nat.mod_eq_of_lt (b := 2 ^ 8)] <;>
    omega

/-- A text that is less than another one has lesser bytes. -/
lemma bytes_lt {s s' : String} (h : s < s') : bytes s < bytes s' := by
  rw [bytes_eq, bytes_eq]
  change s.toList < s'.toList at h
  generalize s.toList = l at h ⊢
  generalize s'.toList = l' at h ⊢
  induction h with
  | @nil c rest =>
    cases bytes : String.utf8EncodeChar c with
    | nil => exact absurd bytes String.utf8EncodeChar_ne_nil
    | cons b l =>
      rw [List.flatMap_cons, bytes]
      exact List.Lex.nil
  | rel less => exact utf8EncodeChar_lt less _ _
  | cons _ ih => exact List.append_left_lt ih

/-- Texts are sorted as their bytes are. -/
lemma bytes_le {s s' : String} (h : s ≤ s') : bytes s ≤ bytes s' := by
  by_cases less : s < s'
  · exact List.le_of_lt (bytes_lt less)
  · rw [String.le_antisymm h (String.not_lt.1 less)]
    exact List.le_refl _

end Text

namespace FlagParsing

/-- Sorting loses no argument and adds none. -/
lemma perm_sorted (arguments : List String) : (sorted arguments).Perm arguments :=
  List.mergeSort_perm _ _

/-- One text may stand before another one if it is not greater. -/
lemma inTurn_iff (a b : String) : (!decide (b < a)) = true ↔ a ≤ b := by
  rw [Bool.not_eq_true', decide_eq_false_iff_not, String.not_lt]

/-- Sorted arguments stand in order. -/
lemma pairwise_sorted (arguments : List String) : (sorted arguments).Pairwise (· ≤ ·) := by
  have pairwise : (sorted arguments).Pairwise fun a b => !decide (b < a) := by
    refine List.pairwise_mergeSort (fun a b c => ?_) (fun a b => ?_) arguments
    · rw [inTurn_iff, inTurn_iff, inTurn_iff]
      exact String.le_trans
    · rw [Bool.or_eq_true, inTurn_iff, inTurn_iff]
      exact String.le_total a b
  exact pairwise.imp fun {a b} => (inTurn_iff a b).1

/-- There is one way to sort arguments. -/
lemma eq_sorted {arguments l : List String} (perm : l.Perm arguments)
    (ordered : l.Pairwise (· ≤ ·)) : l = sorted arguments :=
  (perm.trans (perm_sorted arguments).symm).eq_of_pairwise
    (fun _ _ _ _ => String.le_antisymm) ordered (pairwise_sorted arguments)

/-- Arguments in another order are sorted in the same way. -/
lemma sorted_congr {arguments arguments' : List String} (perm : arguments'.Perm arguments) :
    sorted arguments' = sorted arguments :=
  eq_sorted ((perm_sorted arguments').trans perm) (pairwise_sorted arguments')

/-- Arguments may be left out before or after the sorting. -/
lemma sorted_filter (keep : String → Bool) (arguments : List String) :
    sorted (arguments.filter keep) = (sorted arguments).filter keep :=
  (eq_sorted ((perm_sorted arguments).filter keep) ((pairwise_sorted arguments).filter keep)).symm

end FlagParsing

namespace Assignment

/-- Whether an argument is an option: it goes on after one dash or two and the prefix. -/
def isOption (leader : Option String) (argument : String) : Bool :=
  ["-" ++ lead leader, "--" ++ lead leader].any fun start =>
    start.toList.isPrefixOf argument.toList && start.length < argument.length

/-- The assignments of a parse: those of the environment in the given order, and then those of the
sorted arguments. -/
def inOrder (leader : Option String) (arguments : List String)
    (environment : List (String × String)) : List Assignment :=
  environment.filterMap (ofVariable? leader) ++ ofArguments leader arguments

/-- Whether an environment variable is the one of a flag. -/
def isNamed (leader : Option String) (flags : List Flag) (entry : String × String) : Bool :=
  (ofVariable? leader entry).any (isKnown flags)

/-- A text goes on after a start if it starts so and is longer. -/
lemma beyond?_isSome (start text : String) : (beyond? start text).isSome =
    (start.toList.isPrefixOf text.toList && start.length < text.length) := by
  unfold beyond? after?
  split
  next starts =>
    rw [Bool.eq_iff_iff]
    simp [starts, Option.isSome_filter, String.ofList_eq_empty_iff, List.drop_eq_nil_iff,
      String.length_toList]
  next starts => simp [starts]

/-- An argument has an assignment if it is an option. -/
lemma ofArgument?_isSome (leader : Option String) (argument : String) :
    (ofArgument? leader argument).isSome = isOption leader argument := by
  unfold ofArgument? isOption
  simp only [List.any_cons, List.any_nil, Bool.or_false, ← beyond?_isSome]
  cases beyond? ("--" ++ lead leader) argument with
  | none => simp
  | some option => simp

end Assignment

namespace FlagParsing

variable {leader : Option String}

/-- Arguments that are no options may be left out. -/
lemma readArguments_options (p : FlagParsing) (arguments : List String) :
    p.readArguments leader (arguments.filter (Assignment.isOption leader)) =
      p.readArguments leader arguments := by
  induction arguments generalizing p with
  | nil => rfl
  | cons argument rest ih =>
    rw [List.filter_cons, ← Assignment.ofArgument?_isSome]
    cases option : Assignment.ofArgument? leader argument with
    | none =>
      rw [if_neg (by simp), ih]
      conv_rhs => rw [readArguments, option]
    | some a =>
      rw [if_pos (by simp), readArguments, readArguments, option]
      dsimp only
      cases p.assign? a with
      | none => rfl
      | some p' => exact ih p'

/-- Variables that name no flag may be left out. -/
lemma readVariables_named (p : FlagParsing) (environment : List (String × String)) :
    (environment.filter (Assignment.isNamed leader p.group.flags)).foldl (readVariable leader) p =
      environment.foldl (readVariable leader) p := by
  rw [readVariables_eq, readVariables_eq, ← after_known p (environment.filterMap _),
    List.filter_filterMap, List.filterMap_filter]
  congr 2
  funext entry
  unfold Assignment.isNamed
  cases Assignment.ofVariable? leader entry with
  | none => rfl
  | some a => simp [Option.filter]

end FlagParsing

namespace FlagGroup

open Assignment (inOrder ofArguments valueFor? handed? warning? ofArgument? isOption isNamed)

/-- The groups that come of a group by calls and by setting flags. -/
inductive Later (g : FlagGroup) : FlagGroup → Prop where
  | refl : Later g g
  | call {h} (c : FlagCall) : Later g h → Later g (h.call c).1
  | write {h} (name : String) (v : FlagValue) : Later g h → Later g (h.write name v)

variable {g : FlagGroup} {leader : Option String} {arguments : List String}
  {environment : List (String × String)} {p : FlagParsing}

/-- A parse succeeds if it is the first one and every option names a flag. Then it makes all
assignments. -/
lemma parse_eq_ok : g.parse leader arguments environment = (p, .ok ()) ↔
    (g.used = true ∧ g.parsed = false) ∧
      (∀ a ∈ ofArguments leader arguments, a.isKnown g.flags = true) ∧
      p = ((FlagParsing.start g).after (inOrder leader arguments environment)).finish := by
  have parse_known (h : (g.used = true ∧ g.parsed = false) ∧
      ∀ a ∈ ofArguments leader arguments, a.isKnown g.flags = true) :
      g.parse leader arguments environment =
        (((FlagParsing.start g).after (inOrder leader arguments environment)).finish, .ok ()) := by
    rw [parse_eq, verdict_eq_ok.2 h, made, if_pos h.1, List.takeWhile_eq_self_iff.2 h.2]
    rfl
  constructor
  · intro ok
    have verdict : g.verdict leader arguments = .ok () := by
      rw [parse_eq] at ok
      exact congrArg Prod.snd ok
    have h := verdict_eq_ok.1 verdict
    exact ⟨h.1, h.2, congrArg Prod.fst (ok.symm.trans (parse_known h))⟩
  · rintro ⟨first, known, rfl⟩
    exact parse_known ⟨first, known⟩

/-- What a successful parse `p` of a group leaves. -/
structure Settled (g : FlagGroup) (leader : Option String) (arguments : List String)
    (environment : List (String × String)) (p : FlagParsing) : Prop where
  /-- Every flag has the last value that it took, or else its old one. It is set if it was, or if it
  took one. -/
  flags : ∀ i (f : Flag), g.flags[i]? = some f → p.group.flags[i]? = some { f with
    value := ((inOrder leader arguments environment).filterMap
      (valueFor? g.flags i)).getLast?.getD f.value
    isSet := f.isSet || (inOrder leader arguments environment).any fun a =>
      (a.valueFor? g.flags i).isSome }
  /-- Nothing else about the group has changed but that it was parsed. -/
  group : p.group = { g with flags := p.group.flags, parsed := true }
  length : p.group.flags.length = g.flags.length
  /-- The value that a flag takes last from the arguments beats those of the environment. -/
  beats : ∀ i v, ((ofArguments leader arguments).filterMap (valueFor? g.flags i)).getLast? = some v →
    p.group.flags[i]?.map Flag.value = some v
  /-- Handlers got their arguments in order. -/
  handled : p.handled = (inOrder leader arguments environment).filterMap (handed? g.flags)
  /-- There is a warning about every invalid argument, and no other. -/
  notices : p.notices = (inOrder leader arguments environment).filterMap (warning? g.flags)
  /-- The group cannot be parsed again. -/
  once : ∀ h, p.group.Later h → ∀ leader arguments environment,
    h.parse leader arguments environment = (.start h, .error (.alreadyParsed g.name))

/-- What decides about a parse of a group, and what it leaves if it is successful. -/
structure Parses (g : FlagGroup) (leader : Option String) (arguments : List String)
    (environment : List (String × String)) : Prop where
  /-- Arguments are read in the order of their bytes. -/
  sorted : (FlagParsing.sorted arguments).Perm arguments ∧
    (FlagParsing.sorted arguments).Pairwise fun a b => Text.bytes a ≤ Text.bytes b
  /-- So they may be given in any order. -/
  permuted : ∀ arguments', arguments'.Perm arguments →
    g.parse leader arguments' environment = g.parse leader arguments environment
  /-- Arguments that are no options and variables that name no flag might be left out. -/
  ignored : g.parse leader (arguments.filter (isOption leader))
    (environment.filter (isNamed leader g.flags)) = g.parse leader arguments environment
  /-- The first parse of a group is successful unless an option names no flag. -/
  accepted : (∃ p, g.parse leader arguments environment = (p, .ok ())) ↔
    (g.used = true ∧ g.parsed = false) ∧ ∀ argument ∈ arguments, ∀ a,
      ofArgument? leader argument = some a → a.isKnown g.flags = true
  settled : ∀ p, g.parse leader arguments environment = (p, .ok ()) →
    g.Settled leader arguments environment p

/-- A group that was parsed is not parsed again. -/
lemma Later.done {h : FlagGroup} (later : g.Later h) (used : g.used = true)
    (parsed : g.parsed = true) : h.used = true ∧ h.parsed = true ∧ h.name = g.name := by
  induction later with
  | refl => exact ⟨used, parsed, rfl⟩
  | @call h c _ ih =>
    obtain ⟨used, parsed, name⟩ := ih
    cases c with
    | register f =>
      show (h.register f).used = true ∧ (h.register f).parsed = true ∧ (h.register f).name = g.name
      unfold register
      dsimp only
      split <;> exact ⟨rfl, parsed, name⟩
    | parse leader arguments environment =>
      simp only [FlagGroup.call, FlagGroup.parse, used, parsed]
      exact ⟨used, parsed, name⟩
    | areSet names =>
      show (if names = [] then h else h.touch).used = true ∧
        (if names = [] then h else h.touch).parsed = true ∧
          (if names = [] then h else h.touch).name = g.name
      split
      · exact ⟨used, parsed, name⟩
      · exact ⟨rfl, parsed, name⟩
    | describe => exact ⟨rfl, parsed, name⟩
  | write name v _ ih => exact ih

/-- A group that was parsed refuses every later parse and stays as it is. -/
lemma Later.parse_eq {h : FlagGroup} (later : g.Later h) (used : g.used = true)
    (parsed : g.parsed = true) (leader : Option String) (arguments : List String)
    (environment : List (String × String)) :
    h.parse leader arguments environment = (.start h, .error (.alreadyParsed g.name)) := by
  obtain ⟨used, parsed, name⟩ := later.done used parsed
  rw [parse, if_neg (not_not.2 used), if_pos parsed, name]

/-- A successful parse leaves the last valid values. -/
lemma settled (ok : g.parse leader arguments environment = (p, .ok ())) :
    g.Settled leader arguments environment p := by
  obtain ⟨⟨used, -⟩, -, rfl⟩ := parse_eq_ok.1 ok
  have flags (i : Nat) : (assigned g.flags (inOrder leader arguments environment))[i]? =
      g.flags[i]?.map fun f => f.takes ((inOrder leader arguments environment).filterMap
        (valueFor? g.flags i)) := getElem?_assigned ..
  refine ⟨fun i f f? => ?_, rfl, List.length_mapIdx, fun i v last => ?_, rfl, rfl,
    fun h later => later.parse_eq used rfl⟩
  · have set : (!((inOrder leader arguments environment).filterMap (valueFor? g.flags i)).isEmpty) =
        (inOrder leader arguments environment).any fun a => (a.valueFor? g.flags i).isSome := by
      rw [Bool.eq_iff_iff]
      simp [List.filterMap_eq_nil_iff, Option.isSome_iff_ne_none]
    refine (flags i).trans ?_
    rw [f?, Option.map_some, Flag.takes, set]
  · obtain ⟨a, -, taken⟩ := List.mem_filterMap.1 (List.mem_of_getLast? last)
    obtain ⟨f, f?, -⟩ := Assignment.of_valueFor? taken
    refine (congrArg (Option.map Flag.value) (flags i)).trans ?_
    rw [f?, inOrder, List.filterMap_append, Option.map_some, Option.map_some, Flag.takes,
      List.getLast?_append, last]
    rfl

/-- For every flag of a group, a parse keeps the last valid value that it comes across, in whatever
order the arguments are given. -/
theorem last_valid_wins (g : FlagGroup) (leader : Option String) (arguments : List String)
    (environment : List (String × String)) : g.Parses leader arguments environment where
  sorted := ⟨FlagParsing.perm_sorted arguments,
    (FlagParsing.pairwise_sorted arguments).imp Text.bytes_le⟩
  permuted arguments' perm := by
    unfold parse
    rw [FlagParsing.sorted_congr perm]
  ignored := by
    have named : (environment.filter (isNamed leader g.flags)).foldl
        (FlagParsing.readVariable leader) (.start g) =
          environment.foldl (FlagParsing.readVariable leader) (.start g) :=
      FlagParsing.readVariables_named _ _
    unfold parse
    dsimp only
    rw [FlagParsing.sorted_filter, FlagParsing.readArguments_options, named]
  accepted := by
    have options (a : Assignment) : a ∈ ofArguments leader arguments ↔
        ∃ argument ∈ arguments, ofArgument? leader argument = some a := by
      simp only [ofArguments, List.mem_filterMap, (FlagParsing.perm_sorted arguments).mem_iff]
    constructor
    · rintro ⟨p, ok⟩
      obtain ⟨first, known, -⟩ := parse_eq_ok.1 ok
      exact ⟨first, fun argument ha a eq => known a ((options a).2 ⟨argument, ha, eq⟩)⟩
    · rintro ⟨first, known⟩
      refine ⟨_, parse_eq_ok.2 ⟨first, fun a ha => ?_, rfl⟩⟩
      obtain ⟨argument, ha, eq⟩ := (options a).1 ha
      exact known argument ha a eq
  settled _ := settled

end FlagGroup

/-- A group with a flag of every kind. -/
def painter : FlagGroup :=
  [⟨"verbose", none, "Print more", .bool false, false⟩,
    ⟨"spins", none, "How many spins", .number 4, false⟩,
    ⟨"depth", some "d", "Depth", .number 1, false⟩,
    ⟨"color", none, "Pick a color", .handler, false⟩].foldl .register (.unused "Painter")

/-- The environment asks for three spins and the command line for sixteen, and then for an invalid
number. The color is handed over twice. -/
theorem FlagGroup.last_valid_wins_overridden : ∃ p,
    painter.parse (some "app")
      ["--app:spins=0x10", "positional", "--app:spins=many", "-app:d=7", "--app:color=blue"]
      [("APP_SPINS", "3"), ("HOME", "/"), ("APP_COLOR", "red"), ("APP_VERBOSE", "true")] =
        (p, .ok ()) ∧
    p.group.flags[1]?.map Flag.value = some (.number 16) ∧
    p.handled = [("color", "red"), ("color", "blue")] ∧
    p.notices = [.invalidFlag "many" "spins"] := by
  have sorted : FlagParsing.sorted
      ["--app:spins=0x10", "positional", "--app:spins=many", "-app:d=7", "--app:color=blue"] =
      ["--app:color=blue", "--app:spins=0x10", "--app:spins=many", "-app:d=7", "positional"] :=
    (FlagParsing.eq_sorted (by decide +kernel) (by decide +kernel)).symm
  obtain ⟨p, ok⟩ : ∃ p, painter.parse (some "app")
      ["--app:spins=0x10", "positional", "--app:spins=many", "-app:d=7", "--app:color=blue"]
      [("APP_SPINS", "3"), ("HOME", "/"), ("APP_COLOR", "red"), ("APP_VERBOSE", "true")] =
        (p, .ok ()) := by
    refine ⟨_, FlagGroup.parse_eq_ok.2 ⟨by decide +kernel, ?_, rfl⟩⟩
    rw [Assignment.ofArguments, sorted]
    decide +kernel
  have settled := (FlagGroup.last_valid_wins ..).settled p ok
  refine ⟨p, ok, settled.beats 1 _ ?_, settled.handled.trans ?_, settled.notices.trans ?_⟩
  · rw [Assignment.ofArguments, sorted]
    decide +kernel
  · rw [Assignment.inOrder, Assignment.ofArguments, sorted]
    decide +kernel
  · rw [Assignment.inOrder, Assignment.ofArguments, sorted]
    decide +kernel

end ObjectLocks
