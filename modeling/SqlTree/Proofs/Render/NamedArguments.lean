import Mathlib.Data.List.Nodup
import SqlTree.Pool.Storage
import SqlTree.Proofs.Decimal.Digits
import SqlTree.Proofs.Render.Placeholders

/-!
# Names of arguments

A context that names its arguments counts the values bound since it was cleared last.  So whatever
is written, bound and cleared, each argument has the name of its place.  Different places have
different numerals, therefore the first argument with a name is the only one, and a name leads to
the value that it was given to.
-/

namespace SqlTree

variable {Room : Type} [Storage Room]

/-! ## Steps -/

/-- What can be done to a context. -/
inductive ContextStep where
  | write (text : String)
  | bind (value : Scalar)
  | clear

namespace ContextStep

def run {mode : RenderMode} (context : StoredContext Room mode) :
    ContextStep → StoredContext Room mode
  | write text => context.write text
  | bind value => context.bind value
  | clear => context.clear

def runAll {mode : RenderMode} (context : StoredContext Room mode) (steps : List ContextStep) :
    StoredContext Room mode :=
  steps.foldl run context

/-- The values bound since the context was cleared last, given those that were before the step. -/
def boundBy (values : List Scalar) : ContextStep → List Scalar
  | write _ => values
  | bind value => values ++ [value]
  | clear => []

/-- The values bound in the steps, without those bound before the context was cleared last. -/
def boundValues (steps : List ContextStep) : List Scalar :=
  steps.foldl boundBy []

end ContextStep

/-- The arguments of the context are the values, each under the name of its place. -/
def Context.Names (context : Context .named) (values : List Scalar) : Prop :=
  context.arguments = RenderMode.named.argumentsFrom 0 values

theorem Context.Names.length_arguments {context : Context .named} {values : List Scalar}
    (names : context.Names values) : context.arguments.length = values.length := by
  rw [names]
  exact List.length_mapIdx

/-- A further value gets the number of its place. -/
theorem RenderMode.argumentsFrom_concat (values : List Scalar) (value : Scalar) :
    named.argumentsFrom 0 (values ++ [value]) =
      named.argumentsFrom 0 values ++ [(argumentName (values.length + 1), value)] := by
  simp [argumentsFrom, List.mapIdx_concat]

namespace ContextStep

theorem names_run {context : StoredContext Room .named} {values : List Scalar}
    (names : context.content.Names values) (step : ContextStep) :
    (run context step).content.Names (boundBy values step) := by
  cases step with
  | write text => exact names
  | bind value =>
    have added : (context.bind value).content.arguments =
        context.content.arguments ++
          [(RenderMode.argumentName (context.content.arguments.length + 1), value)] :=
      rfl
    change (context.bind value).content.arguments = _
    rw [added, names.length_arguments, names, boundBy, RenderMode.argumentsFrom_concat]
  | clear => rfl

/-- The induction takes one step at a time; what a step keeps is that all arguments have the names
of their places. -/
theorem names_runAll {context : StoredContext Room .named} {values : List Scalar}
    (names : context.content.Names values) (steps : List ContextStep) :
    (runAll context steps).content.Names (steps.foldl boundBy values) := by
  induction steps generalizing context values with
  | nil => exact names
  | cons step rest ih => exact ih (names_run names step)

end ContextStep

/-! ## Names -/

namespace RenderMode

theorem map_fst_argumentsFrom (values : List Scalar) :
    (named.argumentsFrom 0 values).map Prod.fst =
      (List.range values.length).map fun index => argumentName (index + 1) := by
  apply List.ext_getElem?
  intro index
  by_cases inRange : index < values.length <;> simp [argumentsFrom, inRange]

theorem nodup_names (values : List Scalar) :
    ((named.argumentsFrom 0 values).map Prod.fst).Nodup := by
  rw [map_fst_argumentsFrom]
  apply List.Nodup.map _ List.nodup_range
  intro first second same
  exact Nat.succ_injective (argumentName_injective same)

/-- A numeral does not begin with a zero. -/
theorem argumentName_ne_zero_append {number : Nat} (positive : 0 < number) (rest : String) :
    argumentName number ≠ "arg_0" ++ rest := by
  intro same
  have leadEq : "arg_0".toList = "arg_".toList ++ ['0'] := by decide
  have sameDigits := congrArg String.toList same
  rw [argumentName, String.toList_append, String.toList_append, leadEq, List.append_assoc,
    List.append_cancel_left_eq, Nat.toString_eq_repr, Nat.toList_repr] at sameDigits
  apply Decimal.head?_digitsOf_ne_zero positive
  exact congrArg List.head? sameDigits

theorem argumentName_ne_lead (number : Nat) : argumentName number ≠ "arg_" := by
  intro same
  have noDigits := congrArg String.toList same
  rw [argumentName, String.toList_append, List.append_right_eq_self, Nat.toString_eq_repr,
    Nat.toList_repr] at noDigits
  exact Nat.toDigits_ne_nil noDigits

end RenderMode

namespace Context.Names

variable {context : Context .named} {values : List Scalar}

/-- The value of a place is found under the name of the place. -/
theorem value?_argumentName (names : context.Names values) (index : Nat) :
    context.value? (RenderMode.argumentName (index + 1)) = values[index]? := by
  have found := value?_of_arguments names index
  rwa [Nat.zero_add] at found

/-- What is found under a name is the value of a place, and the name is that of the place. -/
theorem value?_eq_some_iff (names : context.Names values) (name : String) (value : Scalar) :
    context.value? name = some value ↔
      ∃ index, name = RenderMode.argumentName (index + 1) ∧ values[index]? = some value := by
  constructor
  · intro found
    obtain ⟨argument, first, -⟩ := Option.map_eq_some_iff.mp found
    have sameName : argument.1 = name := by simpa using List.find?_some first
    have member : argument.1 ∈ (RenderMode.named.argumentsFrom 0 values).map Prod.fst := by
      rw [← names]
      exact List.mem_map_of_mem (List.mem_of_find?_eq_some first)
    rw [RenderMode.map_fst_argumentsFrom, sameName] at member
    obtain ⟨index, -, rfl⟩ := List.mem_map.mp member
    rw [names.value?_argumentName] at found
    exact ⟨index, rfl, found⟩
  · rintro ⟨index, rfl, valueEq⟩
    rw [names.value?_argumentName, valueEq]

theorem value?_eq_none_iff (names : context.Names values) (name : String) :
    context.value? name = none ↔
      ∀ index < values.length, name ≠ RenderMode.argumentName (index + 1) := by
  constructor
  · rintro missing index inRange rfl
    rw [names.value?_argumentName, List.getElem?_eq_none_iff] at missing
    omega
  · intro noName
    rw [Option.eq_none_iff_forall_ne_some]
    intro value found
    obtain ⟨index, nameEq, valueEq⟩ := (names.value?_eq_some_iff name value).mp found
    exact noName index (List.getElem?_eq_some_iff.mp valueEq).1 nameEq

end Context.Names

/-- Let a context be new or cleared, and then be written to, bound to and cleared in any order.  Its
arguments are the values bound since it was cleared last, each under the number of its place,
counted from one, and no two have the same name.

Under the name of a place the value of the place is found, and under any other name nothing: not
with zeros in front of the number, not without digits, and not with a number that is too great. -/
theorem StoredContext.names_lead_to_values (start : StoredContext Room .named)
    (isNew : start = fresh ∨ ∃ used : StoredContext Room .named, start = used.clear)
    (steps : List ContextStep) :
    let context := (ContextStep.runAll start steps).content
    let values := ContextStep.boundValues steps
    (context.arguments.map Prod.fst).Nodup ∧
    (∀ index, context.arguments[index]? =
      values[index]?.map fun value => ("arg_" ++ toString (index + 1), value)) ∧
    (∀ name value, context.value? name = some value ↔
      ∃ index, name = "arg_" ++ toString (index + 1) ∧ values[index]? = some value) ∧
    (∀ name, context.value? name = none ↔
      ∀ index < context.arguments.length, name ≠ "arg_" ++ toString (index + 1)) ∧
    (∀ rest, context.value? ("arg_0" ++ rest) = none) ∧
    context.value? "arg_" = none ∧
    ∀ number, context.arguments.length < number →
      context.value? ("arg_" ++ toString number) = none := by
  intro context values
  have atStart : start.content.Names [] := by
    rcases isNew with rfl | ⟨used, rfl⟩ <;> rfl
  have names : context.Names values := ContextStep.names_runAll atStart steps
  have argumentsEq : context.arguments = RenderMode.named.argumentsFrom 0 values := names
  have lengthEq : context.arguments.length = values.length := names.length_arguments
  refine ⟨?_, ?_, names.value?_eq_some_iff, ?_, ?_, ?_, ?_⟩
  · rw [argumentsEq]
    exact RenderMode.nodup_names values
  · intro index
    rw [argumentsEq, RenderMode.argumentsFrom, List.getElem?_mapIdx]
    simp only [Nat.zero_add, RenderMode.argumentName]
  · rw [lengthEq]
    exact names.value?_eq_none_iff
  · intro rest
    rw [names.value?_eq_none_iff]
    intro index _ same
    exact RenderMode.argumentName_ne_zero_append (Nat.succ_pos index) rest same.symm
  · rw [names.value?_eq_none_iff]
    intro index _ same
    exact RenderMode.argumentName_ne_lead (index + 1) same.symm
  · intro number tooGreat
    obtain ⟨place, rfl⟩ := Nat.exists_eq_add_one_of_ne_zero (Nat.ne_zero_of_lt tooGreat)
    change context.value? (RenderMode.argumentName (place + 1)) = none
    rw [names.value?_argumentName, List.getElem?_eq_none_iff]
    omega

/-- A value bound before the context was cleared does not take part, and one that is bound twice has
two names. -/
theorem StoredContext.names_lead_to_values_after_clearing :
    let used : StoredContext DoublingRoom .named := fresh.bind .null
    let context := (ContextStep.runAll used.clear
      [.bind (.boolean true), .clear, .bind (.signed 7), .write ", ", .bind (.signed 7)]).content
    (context.arguments.map Prod.fst).Nodup ∧
    context.value? "arg_1" = some (.signed 7) ∧
    context.value? "arg_2" = some (.signed 7) ∧
    context.value? "arg_02" = none ∧
    context.value? "arg_3" = none := by
  intro used context
  obtain ⟨nodup, -, found, -, leadingZero, -, tooGreat⟩ :=
    names_lead_to_values used.clear (.inr ⟨used, rfl⟩)
      [.bind (.boolean true), .clear, .bind (.signed 7), .write ", ", .bind (.signed 7)]
  exact ⟨nodup, (found "arg_1" _).mpr ⟨0, by decide, by decide⟩,
    (found "arg_2" _).mpr ⟨1, by decide, by decide⟩, leadingZero "2", tooGreat 3 (by decide)⟩

end SqlTree
