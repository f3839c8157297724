import SqlTree.Proofs.Render.Modes
import SqlTree.Tree.Build

/-!
# Conditions put together step by step

A WHERE or HAVING clause to which conditions are added one at a time loses none of them: it is
written as its keyword and the expression that joins the same conditions from the left.  An empty
condition is refused wherever it stands, unless it stays the only one.
-/

namespace SqlTree

namespace Expression

/-- The condition and all the others, each one joined to everything before it. -/
def combine (first : Expression) (others : List (Connective × Expression)) : Expression :=
  others.foldl (fun current other => current.connect other.1 other.2) first

@[simp]
theorem isEmpty_connect (connective : Connective) (left right : Expression) :
    (left.connect connective right).isEmpty = (left.isEmpty || right.isEmpty) := by
  rw [connect, isEmpty]

theorem isEmpty_combine {first : Expression} {others : List (Connective × Expression)}
    (firstPresent : first.isEmpty = false)
    (othersPresent : ∀ other ∈ others, other.2.isEmpty = false) :
    (first.combine others).isEmpty = false := by
  induction others generalizing first with
  | nil => exact firstPresent
  | cons other rest ih =>
    obtain ⟨otherPresent, restPresent⟩ := List.forall_mem_cons.mp othersPresent
    exact ih (by simp [firstPresent, otherPresent]) restPresent

section Write

variable {Target : Type} [Sink Target]

/-- A wrapper leaves no trace in what is written. -/
theorem write_wrapped (inner : Expression) :
    ((wrapped inner).write : Writer Target Unit) = inner.write := by
  rw [write]

/-- What is joined is written between parentheses, with the word that joins it between spaces. -/
theorem write_connect (connective : Connective) (left right : Expression) :
    ((left.connect connective right).write : Writer Target Unit) = (do
      emit "("
      left.write
      emit " "
      emit connective.text
      emit " "
      right.write
      emit ")") := by
  rw [connect, write]
  rfl

/-- The first condition counts only by what is written of it.  It is the innermost left operand of
what is put together, so that the induction changes it at every step. -/
theorem write_combine_congr {first second : Expression}
    (same : (first.write : Writer Target Unit) = second.write)
    (others : List (Connective × Expression)) :
    ((first.combine others).write : Writer Target Unit) = (second.combine others).write := by
  induction others generalizing first second with
  | nil => exact same
  | cons other rest ih =>
    have sameJoined : ((first.connect other.1 other.2).write : Writer Target Unit) =
        (second.connect other.1 other.2).write := by
      rw [write_connect, write_connect, same]
    exact ih sameJoined

end Write

end Expression

namespace ConditionClause

variable (clause : ConditionClause) {first : Expression}
  {others : List (Connective × Expression)}

/-! ## One more condition -/

theorem extend_some (connective : Connective) (first other : Expression) :
    clause.extend connective (some first) other =
      if first.isEmpty then .error (.emptyClause clause)
      else if other.isEmpty then .error (.emptyOperand clause)
      else .ok (some (first.connect connective other)) :=
  rfl

/-! ## Any number of conditions -/

/-- As long as no condition is empty, the clause holds all of them.  The clause that an extension
leaves is not empty either, which is what the next extension asks for. -/
theorem extendAll_of_present (firstPresent : first.isEmpty = false)
    (othersPresent : ∀ other ∈ others, other.2.isEmpty = false) :
    clause.extendAll (some first) others = .ok (some (first.combine others)) := by
  induction others generalizing first with
  | nil => rfl
  | cons other rest ih =>
    obtain ⟨otherPresent, restPresent⟩ := List.forall_mem_cons.mp othersPresent
    have joinedPresent : (first.connect other.1 other.2).isEmpty = false := by
      simp [firstPresent, otherPresent]
    have extended := clause.extend_some other.1 first other.2
    simp only [firstPresent, otherPresent, Bool.false_eq_true, if_false] at extended
    rw [extendAll, extended]
    exact ih joinedPresent restPresent

/-- An empty clause cannot be extended. -/
theorem extendAll_of_isEmpty (firstEmpty : first.isEmpty = true) (extended : others ≠ []) :
    clause.extendAll (some first) others = .error (.emptyClause clause) := by
  obtain ⟨other, rest, rfl⟩ := List.exists_cons_of_ne_nil extended
  rw [extendAll, extend_some, if_pos firstEmpty]

/-- The first empty condition that is added is refused; the ones before it have been added. -/
theorem extendAll_of_operand_isEmpty (firstPresent : first.isEmpty = false)
    (someEmpty : ∃ other ∈ others, other.2.isEmpty = true) :
    clause.extendAll (some first) others = .error (.emptyOperand clause) := by
  induction others generalizing first with
  | nil =>
    obtain ⟨other, member, -⟩ := someEmpty
    cases member
  | cons other rest ih =>
    have extended := clause.extend_some other.1 first other.2
    rw [extendAll, extended, firstPresent]
    cases otherEmpty : other.2.isEmpty with
    | true => rfl
    | false =>
      have restEmpty : ∃ other ∈ rest, other.2.isEmpty = true := by
        obtain ⟨found, member, empty⟩ := someEmpty
        rcases List.mem_cons.mp member with rfl | member
        · rw [otherEmpty] at empty
          cases empty
        · exact ⟨found, member, empty⟩
      have joinedPresent : (first.connect other.1 other.2).isEmpty = false := by
        simp [firstPresent, otherEmpty]
      exact ih joinedPresent restEmpty

theorem isEmpty_wrapped (condition : Expression) :
    (Expression.wrapped condition).isEmpty = condition.isEmpty := by
  rw [Expression.isEmpty]

/-- None of the conditions that are put together is empty; one that stays alone may be. -/
def Combinable (first : Expression) (others : List (Connective × Expression)) : Prop :=
  others = [] ∨ first.isEmpty = false ∧ ∀ other ∈ others, other.2.isEmpty = false

theorem Combinable.others_present (combinable : Combinable first others) :
    ∀ other ∈ others, other.2.isEmpty = false := by
  rcases combinable with rfl | ⟨-, othersPresent⟩
  · simp
  · exact othersPresent

theorem extendAll_start_of_present (firstPresent : first.isEmpty = false)
    (othersPresent : ∀ other ∈ others, other.2.isEmpty = false) :
    clause.extendAll (start first) others =
      .ok (some ((Expression.wrapped first).combine others)) :=
  clause.extendAll_of_present (by rw [isEmpty_wrapped, firstPresent]) othersPresent

theorem extendAll_start_of_not_combinable (incomplete : ¬Combinable first others) :
    clause.extendAll (start first) others =
      .error (if first.isEmpty then .emptyClause clause else .emptyOperand clause) := by
  obtain ⟨extended, notPresent⟩ := not_or.mp incomplete
  cases firstEmpty : first.isEmpty with
  | true => exact clause.extendAll_of_isEmpty (by rw [isEmpty_wrapped, firstEmpty]) extended
  | false =>
    have someEmpty : ∃ other ∈ others, other.2.isEmpty = true := by
      simpa [firstEmpty] using notPresent
    exact clause.extendAll_of_operand_isEmpty (by rw [isEmpty_wrapped, firstEmpty]) someEmpty

theorem combinable_of_extendAll_start {built : Option Expression}
    (success : clause.extendAll (start first) others = .ok built) : Combinable first others := by
  by_cases combinable : Combinable first others
  · exact combinable
  · rw [clause.extendAll_start_of_not_combinable combinable] at success
    cases success

/-- What the clause writes of the conditions that were put together. -/
theorem run_write_combine {mode : RenderMode} (first : Expression)
    (others : List (Connective × Expression)) (context : Context mode) :
    ((Node.condition clause (some ((Expression.wrapped first).combine others))).write :
        Writer (Context mode) Unit).run context =
      ((Node.expression (first.combine others)).write : Writer (Context mode) Unit).run
        (context.write (clause.text ++ " ")) := by
  have sameWritten :
      (((Expression.wrapped first).combine others).write : Writer (Context mode) Unit) =
        (first.combine others).write :=
    Expression.write_combine_congr (Expression.write_wrapped first) others
  change (Expression.write _ : Writer (Context mode) Unit).run _ = _
  rw [sameWritten]
  rfl

/-- A clause that starts with a condition can be extended by others exactly if none of the
conditions is empty, and breaks a rule of construction otherwise.  In every mode and from every
context, the clause that results is written as its keyword, a space and the expression that joins
all the conditions from the left. -/
theorem extendAll_start (clause : ConditionClause) (first : Expression)
    (others : List (Connective × Expression)) :
    ((∃ built, clause.extendAll (start first) others = .ok built) ↔ Combinable first others) ∧
    (¬Combinable first others →
      clause.extendAll (start first) others =
        .error (if first.isEmpty then .emptyClause clause else .emptyOperand clause)) ∧
    (∀ built, clause.extendAll (start first) others = .ok built → first.isEmpty = false →
      (Node.condition clause built).isEmpty = false ∧
      ∀ (mode : RenderMode) (context : Context mode),
        ((Node.condition clause built).write : Writer (Context mode) Unit).run context =
          ((Node.expression (first.combine others)).write : Writer (Context mode) Unit).run
            (context.write (clause.text ++ " "))) := by
  refine ⟨⟨?_, ?_⟩, clause.extendAll_start_of_not_combinable, ?_⟩
  · rintro ⟨built, success⟩
    exact clause.combinable_of_extendAll_start success
  · rintro (rfl | ⟨firstPresent, othersPresent⟩)
    · exact ⟨_, rfl⟩
    · exact ⟨_, clause.extendAll_start_of_present firstPresent othersPresent⟩
  · intro built success firstPresent
    have othersPresent := (clause.combinable_of_extendAll_start success).others_present
    rw [clause.extendAll_start_of_present firstPresent othersPresent] at success
    cases success
    have wrappedPresent : (Expression.wrapped first).isEmpty = false := by
      rw [isEmpty_wrapped, firstPresent]
    exact ⟨Expression.isEmpty_combine wrappedPresent othersPresent,
      fun mode context => clause.run_write_combine first others context⟩

/-- A condition extended by a second one with AND and by a third one with OR, and written behind a
value that has the first number already. -/
theorem extendAll_start_by_and_or :
    let active := Expression.compare "active" .equal (.value (.boolean true))
    let adult := Expression.compare "age" .greaterThan (.value (.signed 18))
    ∃ built, filter.extendAll (start active) [(.and, adult), (.or, .identifier "admin")] =
        .ok built ∧
      ((Node.condition filter built).write : Writer (Context .positional) Unit).run
          { sql := "UPDATE users SET seen = $1 ", arguments := [.boolean false] } =
        .ok () {
          sql := "UPDATE users SET seen = $1 WHERE (((active = $2) AND (age > $3)) OR admin)"
          arguments := [.boolean false, .boolean true, .signed 18] } := by
  intro active adult
  obtain ⟨succeeds, -, written⟩ :=
    extendAll_start filter active [(.and, adult), (.or, .identifier "admin")]
  have activePresent : active.isEmpty = false := by decide +kernel
  have combinable : Combinable active [(.and, adult), (.or, .identifier "admin")] :=
    Or.inr ⟨activePresent, by decide +kernel⟩
  obtain ⟨built, success⟩ := succeeds.mpr combinable
  let joined := Node.expression (active.combine [(.and, adult), (.or, .identifier "admin")])
  have unbroken : joined.script.violation = none := by decide +kernel
  have sqlEq : "UPDATE users SET seen = $1 " ++ "WHERE " ++
      Piece.textFrom RenderMode.positional.mark 1 joined.script.pieces =
        "UPDATE users SET seen = $1 WHERE (((active = $2) AND (age > $3)) OR admin)" := by
    decide +kernel
  have valuesEq : Piece.boundValues joined.script.pieces = [.boolean true, .signed 18] := by
    decide +kernel
  refine ⟨built, success, ?_⟩
  rw [(written built success activePresent).2 .positional, Node.run_write, valuesEq,
    Script.outcome, unbroken, ← sqlEq]
  rfl

end ConditionClause

end SqlTree
