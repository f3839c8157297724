import Mathlib.Data.List.Basic
import SqlTree.Proofs.Render.Play
import SqlTree.Proofs.Render.Uniform

/-!
# One script for every mode

What a node leaves in a context is determined by its script and by the number of values that the
context holds already.  The modes differ only in the text that a bound value leaves and in what is
kept of it; the texts of the script, its violation and the order of its values are the same in all
of them.
-/

namespace SqlTree

namespace Piece

/-- The text that pieces leave when `bound` values have numbers already and `mark` tells the text
for the value with a number. -/
@[simp]
def textFrom (mark : Nat → Scalar → String) : (bound : Nat) → List Piece → String
  | _, [] => ""
  | bound, .text content :: rest => content ++ textFrom mark bound rest
  | bound, .bind value :: rest => mark (bound + 1) value ++ textFrom mark (bound + 1) rest

/-- The values to be bound, in order. -/
@[simp]
def boundValues : List Piece → List Scalar
  | [] => []
  | .text _ :: rest => boundValues rest
  | .bind value :: rest => value :: boundValues rest

@[simp]
theorem boundValues_append (first second : List Piece) :
    boundValues (first ++ second) = boundValues first ++ boundValues second := by
  induction first with
  | nil => rfl
  | cons piece rest ih => cases piece <;> simp [ih]

/-- Where no value is bound, the marks of values play no part. -/
theorem textFrom_of_unbound {pieces : List Piece} (unbound : boundValues pieces = [])
    (first second : Nat → Scalar → String) (firstBound secondBound : Nat) :
    textFrom first firstBound pieces = textFrom second secondBound pieces := by
  induction pieces with
  | nil => rfl
  | cons piece rest ih =>
    cases piece with
    | text content => rw [textFrom, textFrom, ih unbound]
    | bind value => cases unbound

/-- Where the numbers play no part it does not matter how many are taken. -/
theorem textFrom_of_unnumbered {mark : Nat → Scalar → String}
    (unnumbered : ∀ first second value, mark first value = mark second value)
    (first second : Nat) (pieces : List Piece) :
    textFrom mark first pieces = textFrom mark second pieces := by
  induction pieces generalizing first second with
  | nil => rfl
  | cons piece rest ih =>
    cases piece with
    | text content => rw [textFrom, textFrom, ih first second]
    | bind value =>
      rw [textFrom, textFrom, ih (first + 1) (second + 1), unnumbered (first + 1) (second + 1)]

end Piece

namespace RenderMode

/-- The text that the value with the given number leaves. -/
def mark : RenderMode → (number : Nat) → Scalar → String
  | raw, _, value => value.inline
  | named, number, _ => ":" ++ argumentName number
  | positional, number, _ => "$" ++ toString number

theorem mark_named (number : Nat) (value : Scalar) :
    mark named number value = ":arg_" ++ toString number := by
  change ":" ++ ("arg_" ++ toString number) = ":arg_" ++ toString number
  rw [← String.append_assoc]
  rfl

/-- What is kept of values when `bound` values have numbers already. -/
def argumentsFrom : (mode : RenderMode) → (bound : Nat) → List Scalar → List mode.Argument
  | raw, _, _ => []
  | named, bound, values =>
    values.mapIdx fun index value => (argumentName (bound + index + 1), value)
  | positional, _, values => values

@[simp]
theorem argumentsFrom_nil (mode : RenderMode) (bound : Nat) : mode.argumentsFrom bound [] = [] := by
  cases mode <;> rfl

theorem argumentsFrom_cons (mode : RenderMode) (bound : Nat) (value : Scalar)
    (rest : List Scalar) :
    mode.argumentsFrom bound (value :: rest) =
      mode.arguments (bound + 1) value ++ mode.argumentsFrom (bound + 1) rest := by
  cases mode with
  | raw => rfl
  | named =>
    simp [argumentsFrom, arguments, List.mapIdx_cons, Nat.add_assoc, Nat.add_comm 1]
  | positional => rfl

end RenderMode

namespace Context

variable {mode : RenderMode}

theorem sink_write (context : Context mode) (text : String) :
    Sink.write context text = { context with sql := context.sql ++ text } :=
  rfl

/-- Binding a value leaves its mark in the text and keeps what the mode keeps of it. -/
theorem sink_bind (context : Context mode) (value : Scalar) :
    Sink.bind context value =
      { sql := context.sql ++ mode.mark context.nextNumber value
        arguments := context.arguments ++ mode.arguments context.nextNumber value } := by
  cases mode <;>
    simp [Sink.bind, bind, bindTexts, bindArguments, writeAll, write, RenderMode.placeholder,
      RenderMode.mark, String.append_assoc]

/-- The raw mode does not count its values, but does not number them either. -/
theorem textFrom_mark_bind (context : Context mode) (value : Scalar) (pieces : List Piece) :
    Piece.textFrom mode.mark (Sink.bind context value).arguments.length pieces =
      Piece.textFrom mode.mark context.nextNumber pieces := by
  rw [sink_bind]
  cases mode with
  | raw => exact Piece.textFrom_of_unnumbered (fun _ _ _ => rfl) _ _ pieces
  | named => simp [nextNumber, RenderMode.arguments]
  | positional => simp [nextNumber, RenderMode.arguments]

theorem argumentsFrom_bind (context : Context mode) (value : Scalar) (values : List Scalar) :
    mode.argumentsFrom (Sink.bind context value).arguments.length values =
      mode.argumentsFrom context.nextNumber values := by
  rw [sink_bind]
  cases mode with
  | raw => rfl
  | named => simp [nextNumber, RenderMode.arguments]
  | positional => rfl

/-- What was in the context stays; the texts of the pieces and the marks of their values come after
it, numbered on from the values that the context held already. -/
theorem addAll_eq (context : Context mode) (pieces : List Piece) :
    Sink.addAll context pieces =
      { sql := context.sql ++ Piece.textFrom mode.mark context.arguments.length pieces
        arguments := context.arguments ++
          mode.argumentsFrom context.arguments.length (Piece.boundValues pieces) } := by
  induction pieces generalizing context with
  | nil => simp
  | cons piece rest ih =>
    rw [Sink.addAll_cons, ih]
    cases piece with
    | text content => simp [sink_write, String.append_assoc]
    | bind value =>
      simp only [Sink.add, textFrom_mark_bind, argumentsFrom_bind]
      simp [sink_bind, nextNumber, RenderMode.argumentsFrom_cons, String.append_assoc]

end Context

/-- Writing a node adds the pieces of its script to the context and breaks off where the script
does, whatever the mode. -/
theorem Node.run_write {mode : RenderMode} (node : Node) (context : Context mode) :
    (node.write : Writer (Context mode) Unit).run context =
      node.script.outcome
        { sql := context.sql ++
            Piece.textFrom mode.mark context.arguments.length node.script.pieces
          arguments := context.arguments ++
            mode.argumentsFrom context.arguments.length
              (Piece.boundValues node.script.pieces) } := by
  rw [Node.run_write_eq_outcome, Context.addAll_eq]

theorem Node.isNull_of_mem_script {node : Node} {value : Scalar}
    (bound : .bind value ∈ node.script.pieces) : value.isNull = false := by
  obtain ⟨template, findsNoNull, fills⟩ := node.uniform_script
  have ownScript : (node.revise .unchanged).script = template.fill .unchanged :=
    fills .unchanged Revision.keepsNonNull_unchanged
  rw [Node.revise_unchanged] at ownScript
  rw [ownScript] at bound
  obtain ⟨piece, pieceMem, filled⟩ := List.mem_map.mp bound
  cases piece with
  | text content => simp at filled
  | value place found =>
    simp only [OpenPiece.fill, Revision.unchanged, Piece.bind.injEq] at filled
    rw [← filled]
    exact findsNoNull place found pieceMem

/-- One script tells what writing a node does in all three modes.  NULL is among its texts, and no
other value is.  In the raw mode a bound value is written in place; in the named and the positional
mode it takes the next number, and the values bound under the numbers are kept in order. -/
theorem Node.write_in_every_mode (node : Node) :
    (∀ value, .bind value ∈ node.script.pieces → value.isNull = false) ∧
    (∀ value : Scalar, value.isNull = true ↔ value = .null) ∧
    Node.script (.expression (.value .null)) = .text "NULL" ∧
    (∀ value, value.isNull = true → Node.script (.expression (.value value)) = .text "NULL") ∧
    (∀ context : Context .raw,
      (node.write : Writer (Context .raw) Unit).run context =
        node.script.outcome
          { sql := context.sql ++
              Piece.textFrom (fun _ value => value.inline) 0 node.script.pieces
            arguments := context.arguments }) ∧
    (∀ context : Context .named,
      (node.write : Writer (Context .named) Unit).run context =
        node.script.outcome
          { sql := context.sql ++
              Piece.textFrom (fun number _ => ":arg_" ++ toString number)
                context.arguments.length node.script.pieces
            arguments := context.arguments ++
              (Piece.boundValues node.script.pieces).mapIdx fun index value =>
                ("arg_" ++ toString (context.arguments.length + (index + 1)), value) }) ∧
    (∀ context : Context .positional,
      (node.write : Writer (Context .positional) Unit).run context =
        node.script.outcome
          { sql := context.sql ++
              Piece.textFrom (fun number _ => "$" ++ toString number)
                context.arguments.length node.script.pieces
            arguments := context.arguments ++ Piece.boundValues node.script.pieces }) := by
  refine ⟨fun value => Node.isNull_of_mem_script, Scalar.isNull_iff, rfl, ?_, ?_, ?_, ?_⟩
  · intro value null
    simp [Node.script, Expression.script, Script.value, null]
  · intro context
    have noArguments : context.arguments = [] := by
      cases shape : context.arguments with
      | nil => rfl
      | cons argument rest => exact argument.elim
    rw [Node.run_write, noArguments]
    rfl
  · intro context
    have namedMark :
        RenderMode.named.mark = fun number _ => ":arg_" ++ toString number := by
      funext number value
      exact RenderMode.mark_named number value
    rw [Node.run_write, namedMark]
    rfl
  · intro context
    rw [Node.run_write]
    rfl

/-- NULL and the same number twice, written behind a value that has the first number already. -/
theorem Node.write_in_every_mode_behind_value :
    let node := Node.expression (.array [.value .null, .value (.signed 7), .value (.signed 7)])
    (node.write : Writer (Context .named) Unit).run
        { sql := "active = :arg_1 AND id IN (", arguments := [("arg_1", .boolean true)] } =
      .ok () {
        sql := "active = :arg_1 AND id IN (NULL, :arg_2, :arg_3"
        arguments := [("arg_1", .boolean true), ("arg_2", .signed 7), ("arg_3", .signed 7)] } ∧
    (node.write : Writer (Context .positional) Unit).run
        { sql := "active = $1 AND id IN (", arguments := [.boolean true] } =
      .ok () {
        sql := "active = $1 AND id IN (NULL, $2, $3"
        arguments := [.boolean true, .signed 7, .signed 7] } ∧
    (node.write : Writer (Context .raw) Unit).run { sql := "active = true AND id IN (" } =
      .ok () { sql := "active = true AND id IN (NULL, 7, 7" } := by
  intro node
  obtain ⟨-, -, -, -, raw, named, positional⟩ := node.write_in_every_mode
  exact ⟨named _, positional _, raw _⟩

end SqlTree
