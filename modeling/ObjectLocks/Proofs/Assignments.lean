import Mathlib.Data.List.Basic
import Mathlib.Data.List.TakeWhile
import ObjectLocks.Flag.Call

/-!
# Assignments to flags

An assignment is for the first flag that it addresses, and no other flag takes notice of it. What a
list of assignments leaves of a group can be read off the flags as they were before the first one,
since none of them changes how a flag is addressed or which arguments it takes.
-/

namespace ObjectLocks

namespace FlagValue

/-- A flag goes on taking the same arguments. -/
lemma assign?_congr {v v' : FlagValue} {argument : String} (h : v.assign? argument = some v') :
    v'.assign? = v.assign? := by
  cases v with
  | bool b =>
    simp only [assign?] at h
    split at h
    · cases h
      rfl
    · split at h <;> cases h
      rfl
  | number n =>
    obtain ⟨k, -, rfl⟩ := Option.map_eq_some_iff.1 h
    rfl
  | handler =>
    cases h
    rfl

/-- Only handlers hand an argument over. -/
lemma assign?_eq_handler (v : FlagValue) (argument : String) :
    v.assign? argument = some .handler ↔ v = .handler := by
  cases v with
  | bool b =>
    simp only [assign?, reduceCtorEq, iff_false]
    split
    · simp
    · split <;> simp
  | number n => simp [assign?]
  | handler => simp [assign?]

end FlagValue

/-- A flag after it took some values, in turn. -/
def Flag.takes (f : Flag) (values : List FlagValue) : Flag :=
  { f with value := values.getLast?.getD f.value, isSet := f.isSet || !values.isEmpty }

/-- A flag that took no values is as it was. -/
lemma Flag.takes_nil (f : Flag) : f.takes [] = f := by
  simp [takes]

/-- A flag may take some values first and the others later. -/
lemma Flag.takes_takes (f : Flag) (values values' : List FlagValue) :
    (f.takes values).takes values' = f.takes (values ++ values') := by
  unfold takes
  rw [List.getLast?_append]
  cases values'.getLast? <;> cases values <;> simp

namespace Assignment

/-- The value that the flag in place `i` takes from an assignment. It takes none if another flag is
addressed, or if it does not take the argument. -/
def valueFor? (flags : List Flag) (i : Nat) (a : Assignment) : Option FlagValue :=
  if flags.findIdx? a.addresses = some i then
    flags[i]?.bind fun f => f.value.assign? a.argument
  else none

/-- The name of the handler that is addressed, if one is, and the argument that it gets. -/
def handed? (flags : List Flag) (a : Assignment) : Option (String × String) :=
  (flags.find? a.addresses).bind fun f =>
    if f.value = .handler then some (f.name, a.argument) else none

/-- Whether an assignment is for a flag at all. -/
def isKnown (flags : List Flag) (a : Assignment) : Bool := flags.any a.addresses

/-- The warning about an argument that the addressed flag does not take. -/
def warning? (flags : List Flag) (a : Assignment) : Option Notice :=
  (flags.find? a.addresses).bind fun f =>
    if f.value.assign? a.argument = none then some (.invalidFlag a.argument a.name) else none

variable {flags : List Flag} {a : Assignment} {f : Flag} {i : Nat}

/-- The first flag that is addressed has a place. -/
lemma exists_place (h : flags.find? a.addresses = some f) :
    ∃ i, flags.findIdx? a.addresses = some i ∧ flags[i]? = some f := by
  rwa [List.find?_eq_bind_findIdx?_getElem?, Option.bind_eq_some_iff] at h

/-- The flag in the place that is addressed is the first one that is addressed. -/
lemma find?_place (place : flags.findIdx? a.addresses = some i) (f? : flags[i]? = some f) :
    flags.find? a.addresses = some f := by
  rw [List.find?_eq_bind_findIdx?_getElem?, place]
  exact f?

/-- A flag takes only values that come of the argument. -/
lemma of_valueFor? {v : FlagValue} (h : a.valueFor? flags i = some v) :
    ∃ f, flags[i]? = some f ∧ f.value.assign? a.argument = some v := by
  unfold valueFor? at h
  split at h
  · exact Option.bind_eq_some_iff.1 h
  · cases h

/-- The flag in the place that is addressed takes the value of the argument, and all others take
none. -/
lemma valueFor?_place (place : flags.findIdx? a.addresses = some i) (f? : flags[i]? = some f)
    (j : Nat) : a.valueFor? flags j = if j = i then f.value.assign? a.argument else none := by
  unfold valueFor?
  by_cases here : j = i
  · rw [if_pos (place.trans (congrArg some here.symm)), if_pos here, here, f?]
    rfl
  · rw [if_neg fun place' => here (Option.some.inj (place'.symm.trans place)), if_neg here]

/-- An assignment is for a flag if one is addressed. -/
lemma isKnown_eq (flags : List Flag) (a : Assignment) :
    a.isKnown flags = (flags.find? a.addresses).isSome := by
  rw [Bool.eq_iff_iff, isKnown, List.any_eq_true, List.find?_isSome]

/-- No flag takes a value from an assignment to an unknown name. -/
lemma valueFor?_unknown (h : flags.find? a.addresses = none) (i : Nat) :
    a.valueFor? flags i = none :=
  if_neg fun place => by
    rw [List.findIdx?_eq_none_iff.2 fun f hf => Bool.eq_false_iff.2 (List.find?_eq_none.1 h f hf)]
      at place
    cases place

/-- No handler gets the argument of an assignment to an unknown name. -/
lemma handed?_unknown (h : flags.find? a.addresses = none) : a.handed? flags = none := by
  rw [handed?, h]
  rfl

/-- Nothing is warned of in an assignment to an unknown name. -/
lemma warning?_unknown (h : flags.find? a.addresses = none) : a.warning? flags = none := by
  rw [warning?, h]
  rfl

end Assignment

/-- Flags after a list of assignments. -/
def assigned (flags : List Flag) (l : List Assignment) : List Flag :=
  flags.mapIdx fun i f => f.takes (l.filterMap (Assignment.valueFor? flags i))

section

variable (flags : List Flag) (l l' : List Assignment) (a : Assignment)

/-- The flag in each place takes the values that the assignments have for it. -/
lemma getElem?_assigned (i : Nat) : (assigned flags l)[i]? =
    flags[i]?.map fun f => f.takes (l.filterMap (Assignment.valueFor? flags i)) :=
  List.getElem?_mapIdx

/-- Assignments that no flag takes change nothing. -/
lemma assigned_of_none (h : ∀ i, ∀ a ∈ l, a.valueFor? flags i = none) :
    assigned flags l = flags := by
  refine List.mapIdx_eq_iff.2 fun i => ?_
  rw [List.filterMap_eq_nil_iff.2 (h i)]
  cases flags[i]? with
  | none => rfl
  | some f => exact congrArg some f.takes_nil.symm

/-- Assignments leave the names alone. -/
lemma findIdx?_assigned :
    (assigned flags l).findIdx? a.addresses = flags.findIdx? a.addresses := by
  have same : (assigned flags l).map a.addresses = flags.map a.addresses := by
    ext1 i
    rw [List.getElem?_map, List.getElem?_map, getElem?_assigned, Option.map_map]
    rfl
  rw [← Function.id_comp a.addresses, ← List.findIdx?_map, same, List.findIdx?_map]

variable {flags l}

/-- The values that a flag takes are of its own kind. -/
lemma assign?_takes {f : Flag} {i : Nat} (f? : flags[i]? = some f) :
    (f.takes (l.filterMap (Assignment.valueFor? flags i))).value.assign? = f.value.assign? := by
  unfold Flag.takes
  cases last : (l.filterMap (Assignment.valueFor? flags i)).getLast? with
  | none => rfl
  | some v =>
    obtain ⟨a, -, taken⟩ := List.mem_filterMap.1 (List.mem_of_getLast? last)
    obtain ⟨f', f'?, taken⟩ := Assignment.of_valueFor? taken
    obtain rfl := Option.some.inj (f?.symm.trans f'?)
    exact FlagValue.assign?_congr taken

variable (flags l)

/-- Assignments leave alone which values later ones have for a flag. -/
lemma valueFor?_assigned (i : Nat) :
    a.valueFor? (assigned flags l) i = a.valueFor? flags i := by
  unfold Assignment.valueFor?
  rw [findIdx?_assigned, getElem?_assigned]
  cases f? : flags[i]? with
  | none => rfl
  | some f => rw [Option.map_some, Option.bind_some, Option.bind_some, assign?_takes f?]

/-- Assignments leave alone which names are known. -/
lemma isKnown_assigned : a.isKnown (assigned flags l) = a.isKnown flags := by
  unfold Assignment.isKnown
  rw [← List.findIdx?_isSome, findIdx?_assigned, List.findIdx?_isSome]

/-- What is read off the flag that is addressed stays the same, unless it depends on its value. -/
lemma find?_assigned {β : Type} (read : Flag → Option β)
    (same : ∀ f i, flags[i]? = some f →
      read (f.takes (l.filterMap (Assignment.valueFor? flags i))) = read f) :
    ((assigned flags l).find? a.addresses).bind read = (flags.find? a.addresses).bind read := by
  rw [List.find?_eq_bind_findIdx?_getElem?, List.find?_eq_bind_findIdx?_getElem?, findIdx?_assigned]
  cases flags.findIdx? a.addresses with
  | none => rfl
  | some i =>
    rw [Option.bind_some, Option.bind_some, getElem?_assigned]
    cases f? : flags[i]? with
    | none => rfl
    | some f => exact same f i f?

/-- Assignments leave alone what is handed over later. -/
lemma handed?_assigned : a.handed? (assigned flags l) = a.handed? flags := by
  refine find?_assigned flags l a _ fun f i f? => if_congr ?_ rfl rfl
  rw [← FlagValue.assign?_eq_handler _ a.argument, assign?_takes f?, FlagValue.assign?_eq_handler]

/-- Assignments leave alone what is warned of later. -/
lemma warning?_assigned : a.warning? (assigned flags l) = a.warning? flags := by
  refine find?_assigned flags l a _ fun f i f? => ?_
  rw [assign?_takes f?]

/-- Assignments can be made in two parts. -/
lemma assigned_append : assigned (assigned flags l) l' = assigned flags (l ++ l') := by
  refine List.mapIdx_eq_iff.2 fun i => ?_
  rw [getElem?_assigned, getElem?_assigned, Option.map_map]
  have same : l'.filterMap (Assignment.valueFor? (assigned flags l) i) =
      l'.filterMap (Assignment.valueFor? flags i) :=
    List.filterMap_congr fun a _ => valueFor?_assigned flags l a i
  rw [same]
  simp only [Function.comp_def, Flag.takes_takes, List.filterMap_append]

end

namespace FlagParsing

/-- A parse after a list of assignments. -/
def after (p : FlagParsing) (l : List Assignment) : FlagParsing where
  group := { p.group with flags := assigned p.group.flags l }
  handled := p.handled ++ l.filterMap (Assignment.handed? p.group.flags)
  notices := p.notices ++ l.filterMap (Assignment.warning? p.group.flags)

/-- A parse that has come to its end. -/
def finish (p : FlagParsing) : FlagParsing := { p with group := { p.group with parsed := true } }

variable {p p' : FlagParsing} {a : Assignment} {f : Flag} {leader : Option String}

/-- A parse after no assignments is as it was. -/
lemma after_nil (p : FlagParsing) : p.after [] = p := by
  simp [after, assigned_of_none]

/-- A parse may make some assignments first and the others later. -/
lemma after_after (p : FlagParsing) (l l' : List Assignment) :
    (p.after l).after l' = p.after (l ++ l') := by
  unfold after
  dsimp only
  simp only [assigned_append, List.filterMap_append, List.append_assoc,
    funext (handed?_assigned p.group.flags l), funext (warning?_assigned p.group.flags l)]

/-- Only the first flag that is addressed gets a new value. -/
lemma getElem?_assignFirst (a : Assignment) (v : FlagValue) (flags : List Flag) (i : Nat) :
    (assignFirst a v flags)[i]? =
      if flags.findIdx? a.addresses = some i then
        flags[i]?.map fun f => { f with value := v, isSet := true }
      else flags[i]? := by
  induction flags generalizing i with
  | nil => simp [assignFirst]
  | cons f rest ih =>
    unfold assignFirst
    rw [List.findIdx?_cons]
    by_cases addressed : a.addresses f = true
    · rw [if_pos addressed, if_pos addressed]
      cases i <;> simp
    · rw [if_neg addressed, if_neg addressed]
      cases i with
      | zero => simp
      | succ i => simp [ih]

/-- A new value for the first flag that is addressed is what the assignment comes to. -/
lemma assignFirst_eq {i : Nat} {v : FlagValue} (place : p.group.flags.findIdx? a.addresses = some i)
    (f? : p.group.flags[i]? = some f) (taken : f.value.assign? a.argument = some v) :
    assignFirst a v p.group.flags = assigned p.group.flags [a] := by
  ext1 j
  rw [getElem?_assignFirst, getElem?_assigned, place]
  by_cases here : i = j
  · obtain rfl := here
    rw [if_pos rfl, f?]
    simp [Assignment.valueFor?_place place f?, taken, Flag.takes]
  · rw [if_neg fun same => here (Option.some.inj same)]
    simp [Assignment.valueFor?_place place f?, Ne.symm here, Flag.takes_nil]

/-- Assignments to unknown names are as good as none. -/
lemma after_known (p : FlagParsing) (l : List Assignment) :
    p.after (l.filter (Assignment.isKnown p.group.flags)) = p.after l := by
  have passes {β : Type} {read : Assignment → Option β}
      (unknown : ∀ a, p.group.flags.find? a.addresses = none → read a = none) :
      (l.filter (Assignment.isKnown p.group.flags)).filterMap read = l.filterMap read := by
    rw [List.filterMap_filter]
    refine List.filterMap_congr fun a _ => ?_
    rw [Assignment.isKnown_eq]
    cases known : p.group.flags.find? a.addresses with
    | none => rw [unknown a known, ite_self]
    | some f => rfl
  unfold after assigned
  simp only [passes fun a h => Assignment.valueFor?_unknown h _,
    passes fun a h => Assignment.handed?_unknown h, passes fun a h => Assignment.warning?_unknown h]

/-- An assignment to an unknown name leaves a parse as it was. -/
lemma after_unknown (h : p.group.flags.find? a.addresses = none) : p.after [a] = p := by
  have unknown : ¬ a.isKnown p.group.flags = true := by
    rw [Assignment.isKnown_eq, h]
    exact Bool.false_ne_true
  rw [← after_known, List.filter_cons_of_neg unknown, List.filter_nil, after_nil]

/-- An assignment to a known name is made. -/
lemma assign?_known (h : p.group.flags.find? a.addresses = some f) :
    p.assign? a = some (p.after [a]) := by
  obtain ⟨i, place, f?⟩ := Assignment.exists_place h
  unfold assign?
  rw [h, Option.map_some]
  refine congrArg some ?_
  cases taken : f.value.assign? a.argument with
  | some v =>
    have kind : v = .handler ↔ f.value = .handler := by
      rw [← FlagValue.assign?_eq_handler f.value a.argument, taken, Option.some_inj]
    unfold after
    simp only [assignFirst_eq place f? taken, kind, List.filterMap_cons, List.filterMap_nil,
      Assignment.handed?, Assignment.warning?, h, taken, Option.bind_some, reduceCtorEq, if_false,
      List.append_nil]
    split <;> simp
  | none =>
    have value : f.value ≠ .handler := fun eq => by
      rw [(FlagValue.assign?_eq_handler f.value a.argument).2 eq] at taken
      cases taken
    have none_for (j : Nat) : a.valueFor? p.group.flags j = none := by
      rw [Assignment.valueFor?_place place f?, taken, ite_self]
    unfold after
    simp [assigned_of_none, none_for, Assignment.handed?, Assignment.warning?, h, taken, value]

/-- An assignment to an unknown name fails. -/
lemma assign?_unknown (h : p.group.flags.find? a.addresses = none) : p.assign? a = none := by
  rw [assign?, h]
  rfl

/-- A variable is read by making its assignment, if it is one. -/
lemma readVariable_eq (p : FlagParsing) (entry : String × String) :
    p.readVariable leader entry = p.after (Assignment.ofVariable? leader entry).toList := by
  unfold readVariable
  cases Assignment.ofVariable? leader entry with
  | none => exact p.after_nil.symm
  | some a =>
    show (p.assign? a).getD p = p.after [a]
    cases known : p.group.flags.find? a.addresses with
    | none => rw [assign?_unknown known, after_unknown known, Option.getD_none]
    | some f => rw [assign?_known known, Option.getD_some]

/-- The environment is read from its first variable to its last one. -/
lemma readVariables_eq (p : FlagParsing) (environment : List (String × String)) :
    environment.foldl (readVariable leader) p =
      p.after (environment.filterMap (Assignment.ofVariable? leader)) := by
  induction environment generalizing p with
  | nil => exact p.after_nil.symm
  | cons entry rest ih =>
    rw [List.foldl_cons, ih, readVariable_eq, after_after]
    cases h : Assignment.ofVariable? leader entry with
    | none => rw [List.filterMap_cons_none h, Option.toList_none, List.nil_append]
    | some a => rw [List.filterMap_cons_some h, Option.toList_some, List.singleton_append]

/-- Arguments are read up to the first option that names no flag. -/
lemma readArguments_eq (p : FlagParsing) (arguments : List String) :
    p.readArguments leader arguments =
      match (arguments.filterMap (Assignment.ofArgument? leader)).dropWhile
        (Assignment.isKnown p.group.flags) with
      | [] => ((p.after (arguments.filterMap (Assignment.ofArgument? leader))).finish, .ok ())
      | a :: _ => (p.after ((arguments.filterMap (Assignment.ofArgument? leader)).takeWhile
          (Assignment.isKnown p.group.flags)), .error (.unknown a.name)) := by
  induction arguments generalizing p with
  | nil =>
    show (p.finish, _) = ((p.after []).finish, _)
    rw [after_nil]
  | cons argument rest ih =>
    unfold readArguments
    cases option : Assignment.ofArgument? leader argument with
    | none =>
      rw [List.filterMap_cons_none option]
      exact ih p
    | some a =>
      rw [List.filterMap_cons_some option]
      cases known : p.group.flags.find? a.addresses with
      | none =>
        have unknown : ¬ a.isKnown p.group.flags = true := by simp [Assignment.isKnown_eq, known]
        rw [List.dropWhile_cons_of_neg unknown, List.takeWhile_cons_of_neg unknown, after_nil]
        simp [assign?_unknown known]
      | some f =>
        -- An assignment leaves the names of the flags alone, so the rest is known or not as before.
        have known' : a.isKnown p.group.flags = true := by simp [Assignment.isKnown_eq, known]
        have same : Assignment.isKnown (p.after [a]).group.flags =
            Assignment.isKnown p.group.flags := funext (isKnown_assigned p.group.flags [a])
        rw [List.dropWhile_cons_of_pos known', List.takeWhile_cons_of_pos known',
          ← List.singleton_append, ← after_after]
        simp only [assign?_known known]
        rw [ih, same]
        split
        · rfl
        · rw [after_after]
          rfl

end FlagParsing

end ObjectLocks
