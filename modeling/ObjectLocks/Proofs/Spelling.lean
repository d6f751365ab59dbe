import Mathlib.Data.List.Forall2
import Mathlib.Data.List.TakeDrop
import ObjectLocks.Proofs.FlagParsing
import ObjectLocks.Proofs.ParseOutcome

/-!
# Spellings of options

An option for a bool flag can be spelled in many ways: its name, with dashes for underscores or
without, alone or with a value, or negated. What is meant is guessed before the flags are looked up,
so a name that starts with `no_` is always taken for a negation when it stands alone. All other
spellings mean what they say, whatever flags there are besides.
-/

namespace ObjectLocks

namespace Assignment

/-- Whether a text is a name in which some of the underscores are written as dashes. -/
def Spells (name text : String) : Prop :=
  List.Forall₂ (fun c d => d = c ∨ c = '_' ∧ d = '-') name.toList text.toList

instance (name text : String) : Decidable (Spells name text) :=
  inferInstanceAs (Decidable (List.Forall₂ ..))

/-- The options that give a value to the flag with a name. The name on its own is one of them unless
it reads as a negation. -/
inductive Spelling (name : String) : String → Bool → Prop where
  | plain {text} : Spells name text → ¬ "no_".toList <+: name.toList → Spelling name text true
  | dash {text} : Spells name text → Spelling name ("no-" ++ text) false
  | underscore {text} : Spells name text → Spelling name ("no_" ++ text) false
  | valued {text} (b : Bool) : Spells name text → Spelling name (text ++ "=" ++ toString b) b

/-- The names that can be spelled. All identifiers are among them. -/
structure IsName (name : String) : Prop where
  ne_empty : name ≠ ""
  no_equals : '=' ∉ name.toList
  no_dashes : '-' ∉ name.toList

variable {name text option : String} {b : Bool}

/-- A spelling of a name without dashes is read as the name. -/
lemma Spells.underscored (spells : Spells name text) (dashes : '-' ∉ name.toList) :
    underscored text.toList = name := by
  have same : text.toList.map (fun c => if c = '-' then '_' else c) = name.toList := by
    unfold Spells at spells
    generalize name.toList = cs at spells dashes
    generalize text.toList = ds at spells
    induction spells with
    | nil => rfl
    | @cons c d cs ds char rest ih =>
      rw [List.mem_cons, not_or] at dashes
      rw [List.map_cons, ih dashes.2]
      rcases char with rfl | ⟨rfl, rfl⟩
      · rw [if_neg (Ne.symm dashes.1)]
      · rfl
  rw [Assignment.underscored, same, String.ofList_toList]

/-- A spelling of a name without an equals sign has none either. -/
lemma Spells.no_equals (spells : Spells name text) (equals : '=' ∉ name.toList) :
    '=' ∉ text.toList := by
  unfold Spells at spells
  generalize name.toList = cs at spells equals
  generalize text.toList = ds at spells
  induction spells with
  | nil => exact nofun
  | @cons c d cs ds char rest ih =>
    rw [List.mem_cons, not_or] at equals ⊢
    refine ⟨?_, ih equals.2⟩
    rcases char with rfl | ⟨rfl, rfl⟩
    · exact equals.1
    · decide

/-- A text that starts like a negation spells a name that does. -/
lemma Spells.starts (spells : Spells name text) (dashes : '-' ∉ name.toList) {rest : List Char}
    (starts : text.toList = 'n' :: 'o' :: '_' :: rest ∨ text.toList = 'n' :: 'o' :: '-' :: rest) :
    "no_".toList <+: name.toList := by
  rw [← spells.underscored dashes]
  rcases starts with starts | starts <;> simp [Assignment.underscored, starts]

/-- Every name spells itself. -/
lemma Spells.refl (name : String) : Spells name name := List.forall₂_same.2 fun _ _ => .inl rfl

/-- A name that starts like a negation is only spelled by texts that do. -/
lemma Spells.negated {rest : String} (spells : Spells ("no_" ++ rest) text) :
    ∃ c rest', (c = '-' ∨ c = '_') ∧ text = String.ofList ['n', 'o', c] ++ rest' ∧
      Spells rest rest' := by
  have toList : ("no_" ++ rest).toList = 'n' :: 'o' :: '_' :: rest.toList := String.toList_append
  unfold Spells at spells
  rw [toList] at spells
  obtain ⟨n, _, rfl | ⟨none, -⟩, from_o, text_n⟩ := List.forall₂_cons_left_iff.1 spells
  · obtain ⟨o, _, rfl | ⟨none, -⟩, from_dash, rfl⟩ := List.forall₂_cons_left_iff.1 from_o
    · obtain ⟨c, cs, dash, spells_rest, rfl⟩ := List.forall₂_cons_left_iff.1 from_dash
      refine ⟨c, String.ofList cs, ?_, ?_, ?_⟩
      · rcases dash with rfl | ⟨-, rfl⟩
        · exact .inr rfl
        · exact .inl rfl
      · rw [← String.toList_inj, text_n, String.toList_append, String.toList_ofList,
          String.toList_ofList]
        rfl
      · unfold Spells
        rwa [String.toList_ofList]
    · cases none
  · cases none

/-- An option is cut at its first equals sign. -/
lemma span_equals {cs : List Char} (plain : '=' ∉ cs) (rest : List Char) :
    (cs ++ rest).span (· ≠ '=') = (cs ++ rest.takeWhile (· ≠ '='), rest.dropWhile (· ≠ '=')) := by
  have all : ∀ c ∈ cs, (decide (c ≠ '=')) = true := fun c hc => by
    simpa using fun eq : c = '=' => plain (eq ▸ hc)
  rw [List.span_eq_takeWhile_dropWhile, List.takeWhile_append_of_pos all,
    List.dropWhile_append_of_pos all]

/-- An option without a value that does not start like a negation is read as `true`. -/
lemma ofOption_positive (plain : '=' ∉ text.toList) (short : Bool)
    (positive : ∀ rest, ¬ (text.toList = 'n' :: 'o' :: '_' :: rest ∨
      text.toList = 'n' :: 'o' :: '-' :: rest)) :
    ofOption short text = ⟨short, underscored text.toList, "true"⟩ := by
  have span := span_equals plain []
  simp only [List.append_nil, List.takeWhile_nil, List.dropWhile_nil] at span
  unfold ofOption
  rw [span]
  dsimp only
  split
  next starts => exact absurd (.inl starts) (positive _)
  next starts => exact absurd (.inr starts) (positive _)
  next => rfl

/-- An option without a value that starts like a negation is read as `false`. -/
lemma ofOption_negated (plain : '=' ∉ text.toList) (short : Bool) {c : Char}
    (dash : c = '-' ∨ c = '_') :
    ofOption short (String.ofList ['n', 'o', c] ++ text) =
      ⟨short, underscored text.toList, "false"⟩ := by
  have plain' : '=' ∉ ['n', 'o', c] ++ text.toList := by
    simp only [List.cons_append, List.nil_append, List.mem_cons, not_or]
    rcases dash with rfl | rfl <;> exact ⟨by decide, by decide, by decide, plain⟩
  have span := span_equals plain' []
  simp only [List.append_nil, List.takeWhile_nil, List.dropWhile_nil] at span
  unfold ofOption
  rw [String.toList_append, String.toList_ofList, span]
  rcases dash with rfl | rfl <;> rfl

/-- An option with a value is read as that value. -/
lemma ofOption_valued (plain : '=' ∉ text.toList) (short : Bool) (value : String) :
    ofOption short (text ++ "=" ++ value) = ⟨short, underscored text.toList, value⟩ := by
  unfold ofOption
  rw [String.toList_append, String.toList_append, List.append_assoc, span_equals plain]
  simp

/-- A spelling is read as it is meant. -/
lemma Spelling.ofOption (spelling : Spelling name option b) (isName : IsName name) :
    ofOption false option = ⟨false, name, toString b⟩ := by
  have dashes := isName.no_dashes
  cases spelling with
  | plain spells positive =>
    rw [ofOption_positive (spells.no_equals isName.no_equals) false
      (fun _ starts => positive (spells.starts dashes starts)), spells.underscored dashes]
    rfl
  | dash spells =>
    rw [ofOption_negated (spells.no_equals isName.no_equals) false (.inl rfl),
      spells.underscored dashes]
    rfl
  | underscore spells =>
    rw [ofOption_negated (spells.no_equals isName.no_equals) false (.inr rfl),
      spells.underscored dashes]
    rfl
  | valued b spells =>
    rw [ofOption_valued (spells.no_equals isName.no_equals), spells.underscored dashes]

/-- An argument that is a long option. -/
def longOption (leader : Option String) (option : String) : String := "--" ++ lead leader ++ option

/-- A long option that is not empty is read as an option. -/
lemma ofArgument?_longOption (leader : Option String) (ne_empty : option ≠ "") :
    ofArgument? leader (longOption leader option) = some (ofOption false option) := by
  have toList : (longOption leader option).toList = ("--" ++ lead leader).toList ++ option.toList :=
    String.toList_append
  have starts :
      ("--" ++ lead leader).toList.isPrefixOf (longOption leader option).toList = true := by
    rw [toList, List.isPrefixOf_iff_prefix]
    exact List.prefix_append _ _
  have rest : String.ofList ((longOption leader option).toList.drop
      ("--" ++ lead leader).length) = option := by
    rw [toList, ← String.length_toList, List.drop_left, String.ofList_toList]
  have beyond : beyond? ("--" ++ lead leader) (longOption leader option) = some option := by
    rw [beyond?, after?, if_pos starts, rest]
    simp [Option.filter, ne_empty]
  rw [ofArgument?, beyond]

/-- A spelling of a name is not empty. -/
lemma Spelling.ne_empty (spelling : Spelling name option b) (isName : IsName name) :
    option ≠ "" := by
  rintro rfl
  have read := spelling.ofOption isName
  have empty : Assignment.ofOption false "" = ⟨false, "", "true"⟩ := by decide
  rw [empty] at read
  exact isName.ne_empty (congrArg Assignment.name read).symm

/-- A spelling that is given as an argument is read as it is meant. -/
lemma Spelling.ofArgument? (spelling : Spelling name option b) (isName : IsName name)
    (leader : Option String) :
    ofArgument? leader (longOption leader option) = some ⟨false, name, toString b⟩ := by
  rw [ofArgument?_longOption leader (spelling.ne_empty isName), spelling.ofOption isName]

/-- The name of a flag that starts like a negation is read as one. -/
lemma Spells.ofArgument?_negated {rest : String} (spells : Spells ("no_" ++ rest) text)
    (isName : IsName ("no_" ++ rest)) (leader : Option String) :
    ofArgument? leader (longOption leader text) = some ⟨false, rest, "false"⟩ ∧
      ofArgument? leader (longOption leader (rest ++ "=false")) = some ⟨false, rest, "false"⟩ := by
  have dashes : '-' ∉ rest.toList := fun dash =>
    isName.no_dashes (by rw [String.toList_append]; exact List.mem_append_right _ dash)
  have equals : '=' ∉ rest.toList := fun equals =>
    isName.no_equals (by rw [String.toList_append]; exact List.mem_append_right _ equals)
  obtain ⟨c, rest', dash, rfl, spells_rest⟩ := spells.negated
  constructor
  · rw [ofArgument?_longOption leader (by simp [← String.toList_inj]),
      ofOption_negated (spells_rest.no_equals equals) false dash, spells_rest.underscored dashes]
  · have valued := ofOption_valued equals false "false"
    rw [String.append_assoc, (Spells.refl rest).underscored dashes] at valued
    have nonempty : rest ++ "=false" ≠ "" := fun empty =>
      absurd (String.append_eq_empty_iff.1 empty).2 (by decide)
    rw [ofArgument?_longOption leader nonempty]
    exact congrArg some valued

/-- A single argument has at most one assignment. -/
lemma ofArguments_singleton (leader : Option String) (argument : String) :
    ofArguments leader [argument] = (ofArgument? leader argument).toList := by
  have sorted : FlagParsing.sorted [argument] = [argument] :=
    (FlagParsing.eq_sorted (.refl _) (List.pairwise_singleton _ _)).symm
  rw [ofArguments, sorted]
  cases read : ofArgument? leader argument <;> simp [read]

end Assignment

/-- Assignments leave the names of the flags alone. -/
lemma map_name_assigned (flags : List Flag) (l : List Assignment) :
    (assigned flags l).map Flag.name = flags.map Flag.name := by
  ext1 i
  rw [List.getElem?_map, getElem?_assigned, Option.map_map, List.getElem?_map]
  rfl

namespace FlagGroup

variable {g h : FlagGroup} {f : Flag}

/-- A group exists if it has flags, and no two of them have the same name. -/
structure WellNamed (g : FlagGroup) : Prop where
  nodup : (g.flags.map Flag.name).Nodup
  used : g.flags ≠ [] → g.used = true

/-- Registering a flag keeps the names of a group apart. -/
lemma WellNamed.register (wellNamed : g.WellNamed) (f : Flag) : (g.register f).WellNamed := by
  unfold FlagGroup.register
  dsimp only
  split
  next => exact ⟨wellNamed.nodup, fun _ => rfl⟩
  next fresh =>
    have absent : f.name ∉ g.flags.map Flag.name := by
      intro taken
      obtain ⟨f', hf', same⟩ := List.mem_map.1 taken
      exact fresh (List.any_eq_true.2 ⟨f', hf', beq_iff_eq.2 same⟩)
    refine ⟨?_, fun _ => rfl⟩
    show ((g.flags ++ [f]).map Flag.name).Nodup
    rw [List.map_append]
    exact List.nodup_append'.2 ⟨wellNamed.nodup, List.nodup_singleton _, by simpa using absent⟩

/-- Every call on a group keeps the names apart. -/
lemma WellNamed.call (wellNamed : g.WellNamed) (c : FlagCall) : (g.call c).1.WellNamed := by
  cases c with
  | register f => exact wellNamed.register f
  | parse leader arguments environment =>
    have flags : (g.call (.parse leader arguments environment)).1.flags = _ := g.flags_parse ..
    constructor
    · rw [flags, map_name_assigned]
      exact wellNamed.nodup
    · intro nonempty
      refine (g.used_parse ..).trans (wellNamed.used fun empty => nonempty ?_)
      rw [flags, empty]
      rfl
  | areSet names =>
    show (if names = [] then g else g.touch).WellNamed
    split
    · exact wellNamed
    · exact ⟨wellNamed.nodup, fun _ => rfl⟩
  | describe => exact ⟨wellNamed.nodup, fun _ => rfl⟩

/-- Setting a flag keeps the names apart. -/
lemma WellNamed.write (wellNamed : g.WellNamed) (name : String) (v : FlagValue) :
    (g.write name v).WellNamed := by
  constructor
  · have names : (g.write name v).flags.map Flag.name = g.flags.map Flag.name := by
      rw [FlagGroup.write, List.map_map]
      refine List.map_congr_left fun f _ => ?_
      show (if f.name = name then { f with value := v } else f).name = f.name
      split <;> rfl
    rw [names]
    exact wellNamed.nodup
  · intro nonempty
    refine wellNamed.used fun empty => nonempty ?_
    rw [FlagGroup.write, empty]
    rfl

/-- The names of the flags are kept apart by every call. -/
lemma Later.wellNamed {name : String} (later : (unused name).Later g) : g.WellNamed := by
  induction later with
  | refl => exact ⟨List.nodup_nil, nofun⟩
  | call c _ ih => exact ih.call c
  | write name v _ ih => exact ih.write name v

end FlagGroup

section

variable {flags : List Flag} {f : Flag} {i j : ℕ} {s : String} {v : FlagValue}

/-- Names that are kept apart tell the flags apart. -/
lemma eq_place (nodup : (flags.map Flag.name).Nodup) (f? : flags[i]? = some f) {h : Flag}
    (h? : flags[j]? = some h) (same : h.name = f.name) : j = i := by
  obtain ⟨length, -⟩ := List.getElem?_eq_some_iff.1 h?
  refine (List.getElem?_inj (by rwa [List.length_map]) nodup).1 ?_
  rw [List.getElem?_map, List.getElem?_map, f?, h?, Option.map_some, Option.map_some, same]

/-- A flag is addressed by its long name. -/
lemma findIdx?_long (nodup : (flags.map Flag.name).Nodup) (f? : flags[i]? = some f) (s : String) :
    flags.findIdx? (⟨false, f.name, s⟩ : Assignment).addresses = some i := by
  obtain ⟨length, eq⟩ := List.getElem?_eq_some_iff.1 f?
  refine List.findIdx?_eq_some_iff_getElem.2 ⟨length, ?_, fun j less addressed => ?_⟩
  · simp [Assignment.addresses, eq]
  · have same : flags[j].name = f.name := by simpa [Assignment.addresses] using addressed
    exact less.ne (eq_place nodup f? (List.getElem?_eq_getElem (less.trans length)) same)

/-- Flags after the one with a name got a value. -/
def given (flags : List Flag) (name : String) (v : FlagValue) : List Flag :=
  flags.map fun f => if f.name = name then { f with value := v, isSet := true } else f

/-- A flag that is addressed by its name gets the value and all others keep theirs. -/
lemma assigned_long (nodup : (flags.map Flag.name).Nodup) (f? : flags[i]? = some f)
    (taken : f.value.assign? s = some v) :
    assigned flags [⟨false, f.name, s⟩] = given flags f.name v := by
  have place := findIdx?_long nodup f? s
  ext1 j
  rw [getElem?_assigned, given, List.getElem?_map]
  cases h? : flags[j]? with
  | none => rfl
  | some h =>
    refine congrArg some ?_
    rw [List.filterMap_cons, List.filterMap_nil, Assignment.valueFor?_place place f?]
    dsimp only
    by_cases same : h.name = f.name
    · rw [if_pos same, if_pos (eq_place nodup f? h? same), taken]
      simp [Flag.takes]
    · have other : j ≠ i := by
        rintro rfl
        exact same (congrArg Flag.name (Option.some.inj (h?.symm.trans f?)))
      rw [if_neg same, if_neg other, h.takes_nil]

/-- A parse after the flag with a name got a value. -/
def FlagParsing.give (p : FlagParsing) (name : String) (v : FlagValue) : FlagParsing :=
  { p with group := { p.group with flags := given p.group.flags name v } }

/-- An assignment to a flag by its name does nothing but give it the value. -/
lemma FlagParsing.after_long {p : FlagParsing} (nodup : (p.group.flags.map Flag.name).Nodup)
    (f? : p.group.flags[i]? = some f) (taken : f.value.assign? s = some v) (v_ne : v ≠ .handler) :
    p.after [⟨false, f.name, s⟩] = p.give f.name v := by
  have found : p.group.flags.find? (⟨false, f.name, s⟩ : Assignment).addresses = some f :=
    Assignment.find?_place (findIdx?_long nodup f? s) f?
  have value_ne : f.value ≠ .handler := fun handler => by
    rw [← FlagValue.assign?_eq_handler f.value s, taken] at handler
    exact v_ne (Option.some.inj handler)
  unfold after
  rw [assigned_long nodup f? taken]
  simp [Assignment.handed?, Assignment.warning?, found, taken, value_ne, give]

end

/-- A bool flag takes the printed form of a truth value. -/
lemma FlagValue.assign?_toString (b₀ b : Bool) :
    (bool b₀).assign? (toString b) = some (bool b) := by
  cases b <;> rfl

namespace FlagGroup

open Assignment (longOption ofArguments ofVariable? isKnown isNamed Spells Spelling IsName)

variable {leader : Option String} {argument : String} {a : Assignment} {b₀ : Bool}

/-- No arguments make no assignments. -/
lemma ofArguments_nil (leader : Option String) : ofArguments leader [] = [] := by
  rw [ofArguments, ← FlagParsing.eq_sorted (.refl _) .nil]
  rfl

/-- A parse without arguments makes the assignments of the environment. -/
lemma parse_nil (first : g.used = true ∧ g.parsed = false) (leader : Option String)
    (environment : List (String × String)) : g.parse leader [] environment =
      (((FlagParsing.start g).after (environment.filterMap (ofVariable? leader))).finish,
        .ok ()) := by
  rw [parse_eq, made, if_pos first, verdict, ofArguments_nil]
  simp [first.1, first.2, FlagParsing.ended]

/-- A parse of one option makes its assignment last, or fails if no flag has its name. -/
lemma parse_singleton (first : g.used = true ∧ g.parsed = false)
    (read : Assignment.ofArgument? leader argument = some a)
    (environment : List (String × String)) :
    g.parse leader [argument] environment =
      if a.isKnown g.flags then
        (((FlagParsing.start g).after (environment.filterMap (ofVariable? leader) ++ [a])).finish,
          .ok ())
      else ((FlagParsing.start g).after (environment.filterMap (ofVariable? leader)),
        .error (.unknown a.name)) := by
  rw [parse_eq, made, if_pos first, verdict, Assignment.ofArguments_singleton, read]
  cases known : a.isKnown g.flags <;> simp [first.1, first.2, known, FlagParsing.ended]

/-- An environment that names no flag is as good as none. -/
lemma parse_unnamed (first : g.used = true ∧ g.parsed = false)
    {environment : List (String × String)}
    (unnamed : ∀ entry ∈ environment, isNamed leader g.flags entry = false) :
    g.parse leader [] environment = ((FlagParsing.start g).finish, .ok ()) := by
  have none : (environment.filterMap (ofVariable? leader)).filter
      (isKnown (FlagParsing.start g).group.flags) = [] := by
    refine List.filter_eq_nil_iff.2 fun a ha => ?_
    obtain ⟨entry, mem, read⟩ := List.mem_filterMap.1 ha
    have unknown := unnamed entry mem
    rw [isNamed, read, Option.any_some] at unknown
    simp [FlagParsing.start, unknown]
  rw [parse_nil first, ← FlagParsing.after_known, none, FlagParsing.after_nil]

/-- Whatever was assigned before, a bool flag that is addressed by its name gets its value. -/
lemma after_named (nodup : (g.flags.map Flag.name).Nodup) {i : ℕ} (f? : g.flags[i]? = some f)
    (kind : f.value = .bool b₀) (l : List Assignment) (b : Bool) :
    ((FlagParsing.start g).after l).after [⟨false, f.name, toString b⟩] =
      ((FlagParsing.start g).after l).give f.name (.bool b) := by
  have place : (assigned g.flags l)[i]? =
      some (f.takes (l.filterMap (Assignment.valueFor? g.flags i))) := by
    rw [getElem?_assigned, f?]
    rfl
  have taken : (f.takes (l.filterMap (Assignment.valueFor? g.flags i))).value.assign? (toString b) =
      some (.bool b) := by
    rw [assign?_takes f?, kind, FlagValue.assign?_toString]
  have nodup' : ((assigned g.flags l).map Flag.name).Nodup := by rwa [map_name_assigned]
  have named := FlagParsing.after_long (p := (FlagParsing.start g).after l) nodup' place taken nofun
  exact named

/-- What the options that are named after the bool flag `f` do to a group. -/
structure TakesSpellings (g : FlagGroup) (leader : Option String) (f : Flag) : Prop where
  unique : ∀ h ∈ g.flags, h.name = f.name → h = f
  /-- Every spelling gives the flag its value. All else is as the environment leaves it. -/
  spelled : ∀ option b, Spelling f.name option b → ∀ environment,
    g.parse leader [longOption leader option] environment =
      ((g.parse leader [] environment).1.give f.name (.bool b), .ok ())
  /-- So if no flag is named by the environment, all else is as it was. -/
  alone : ∀ option b, Spelling f.name option b → ∀ environment,
    (∀ entry ∈ environment, isNamed leader g.flags entry = false) →
    g.parse leader [longOption leader option] environment =
      (((FlagParsing.start g).give f.name (.bool b)).finish, .ok ())
  /-- A name that stands alone and reads as a negation is one, of a flag that might not exist. -/
  negation : ∀ rest text, f.name = "no_" ++ rest → Spells f.name text → ∀ environment,
    g.parse leader [longOption leader text] environment =
      g.parse leader [longOption leader (rest ++ "=false")] environment ∧
    ((∀ h ∈ g.flags, h.name ≠ rest) →
      (g.parse leader [longOption leader text] environment).2 = .error (.unknown rest))

/-- Every bool flag can be spelled, but the name of one that starts like a negation has to be given
a value. -/
theorem bool_flag_spelled {name : String} (later : (unused name).Later g)
    (parsed : g.parsed = false) (mem : f ∈ g.flags) (kind : f.value = .bool b₀)
    (isName : IsName f.name) (leader : Option String) : g.TakesSpellings leader f := by
  have nodup := later.wellNamed.nodup
  have first : g.used = true ∧ g.parsed = false :=
    ⟨later.wellNamed.used (List.ne_nil_of_mem mem), parsed⟩
  obtain ⟨i, f?⟩ := List.mem_iff_getElem?.1 mem
  have spelled option b (spelling : Spelling f.name option b)
      (environment : List (String × String)) :
      g.parse leader [longOption leader option] environment =
        ((g.parse leader [] environment).1.give f.name (.bool b), .ok ()) := by
    have known : (⟨false, f.name, toString b⟩ : Assignment).isKnown g.flags = true :=
      List.any_eq_true.2 ⟨f, mem, by simp [Assignment.addresses]⟩
    rw [parse_singleton first (spelling.ofArgument? isName leader), if_pos known, parse_nil first,
      ← FlagParsing.after_after, after_named nodup f? kind]
    rfl
  constructor
  case unique =>
    intro h mem_h same
    exact List.inj_on_of_nodup_map nodup mem_h mem same
  case spelled => exact spelled
  case alone =>
    intro option b spelling environment unnamed
    rw [spelled option b spelling, parse_unnamed first unnamed]
    rfl
  case negation =>
    intro rest text name spells environment
    rw [name] at spells isName
    obtain ⟨read, read_valued⟩ := spells.ofArgument?_negated isName leader
    rw [parse_singleton first read, parse_singleton first read_valued]
    refine ⟨rfl, fun unknown => ?_⟩
    rw [if_neg]
    simpa [isKnown, Assignment.addresses] using unknown

end FlagGroup

/-- A group in which the name of a flag looks like the negation of another one. -/
def compiler : FlagGroup :=
  [⟨"inline", none, "Inline calls", .bool true, false⟩,
    ⟨"no_inline", some "n", "Do not inline calls", .bool false, false⟩,
    ⟨"unroll_loops", none, "Unroll loops", .bool false, false⟩,
    ⟨"no_checks", none, "Leave checks out", .bool false, false⟩].foldl
      .register (.unused "Compiler")

namespace FlagGroup

open Assignment (Spells)

/-- Flags that are registered in turn. -/
lemma Later.registered {name : String} (flags : List Flag) (later : (unused name).Later g) :
    (unused name).Later (flags.foldl .register g) := by
  induction flags generalizing g with
  | nil => exact later
  | cons f flags ih => exact ih (.call (.register f) later)

/-- A flag that looks like a negation can be negated and be given a value. Without a value it is the
other flag that is addressed, or none at all. -/
theorem bool_flag_spelled_negative :
    compiler.parse (some "cc") ["--cc:no-no-inline"] [("HOME", "/")] =
      (((FlagParsing.start compiler).give "no_inline" (.bool false)).finish, .ok ()) ∧
    compiler.parse (some "cc") ["--cc:unroll-loops"] [("CC_NO_INLINE", "true")] =
      ((compiler.parse (some "cc") [] [("CC_NO_INLINE", "true")]).1.give "unroll_loops"
        (.bool true), .ok ()) ∧
    compiler.parse none ["--no-inline"] [] = compiler.parse none ["--inline=false"] [] ∧
    (compiler.parse none ["--no_checks"] []).2 = .error (.unknown "checks") := by
  have later : (unused "Compiler").Later compiler := .registered _ .refl
  have noInline leader := bool_flag_spelled later (by decide +kernel)
    (f := ⟨"no_inline", some "n", "Do not inline calls", .bool false, false⟩) (by decide +kernel)
    rfl ⟨by decide, by decide, by decide⟩ leader
  have unroll leader := bool_flag_spelled later (by decide +kernel)
    (f := ⟨"unroll_loops", none, "Unroll loops", .bool false, false⟩) (by decide +kernel)
    rfl ⟨by decide, by decide, by decide⟩ leader
  have noChecks leader := bool_flag_spelled later (by decide +kernel)
    (f := ⟨"no_checks", none, "Leave checks out", .bool false, false⟩) (by decide +kernel)
    rfl ⟨by decide, by decide, by decide⟩ leader
  refine ⟨?_, ?_, ?_, ?_⟩
  · have spells : Spells "no_inline" "no-inline" := by decide
    exact (noInline (some "cc")).alone "no-no-inline" false (.dash spells) _ (by decide +kernel)
  · exact (unroll (some "cc")).spelled "unroll-loops" true (.plain (by decide) (by decide)) _
  · exact ((noInline none).negation "inline" "no-inline" rfl (by decide) []).1
  · exact ((noChecks none).negation "checks" "no_checks" rfl (by decide) []).2 (by decide +kernel)

/-- A flag is addressed by its name and nothing but its name, and yet it is another one that gets a
value. -/
theorem bool_flag_spelled_not_named : ∃ p,
    compiler.parse none ["--no_inline"] [] = (p, .ok ()) ∧
    p.group.flags.map (fun f => (f.name, f.value, f.isSet)) =
      [("inline", .bool false, true), ("no_inline", .bool false, false),
        ("unroll_loops", .bool false, false), ("no_checks", .bool false, false)] := by
  have first : compiler.used = true ∧ compiler.parsed = false := by decide +kernel
  have read : Assignment.ofArgument? none "--no_inline" = some ⟨false, "inline", "false"⟩ := by
    decide +kernel
  refine ⟨_, (parse_singleton first read []).trans (if_pos (by decide +kernel)), ?_⟩
  decide +kernel

end FlagGroup

end ObjectLocks
