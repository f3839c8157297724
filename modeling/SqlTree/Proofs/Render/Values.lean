import SqlTree.Proofs.Render.Alike
import SqlTree.Proofs.Render.Modes

/-!
# Bound values stay out of the text

When a node is revised, what is rendered of it in the named and in the positional mode changes in
the arguments only: each of them comes from one fixed place of the node and holds what the revision
puts there.
-/

namespace SqlTree

namespace OpenPiece

/-- The places of the values to be bound and what is found in them, in order. -/
@[simp]
def slots : List OpenPiece → List (Place × Scalar)
  | [] => []
  | .text _ :: rest => slots rest
  | .value place found :: rest => (place, found) :: slots rest

theorem boundValues_fill (revision : Revision) (pieces : List OpenPiece) :
    Piece.boundValues (pieces.map (fill revision)) =
      (slots pieces).map fun slot => revision slot.1 slot.2 := by
  induction pieces with
  | nil => rfl
  | cons piece rest ih =>
    cases piece with
    | text content => simpa using ih
    | value place found => simpa using ih

/-- A mark that does not show the value hides the revision. -/
theorem textFrom_fill {mark : Nat → Scalar → String}
    (hidesValue : ∀ number first second, mark number first = mark number second)
    (first second : Revision) (bound : Nat) (pieces : List OpenPiece) :
    Piece.textFrom mark bound (pieces.map (fill first)) =
      Piece.textFrom mark bound (pieces.map (fill second)) := by
  induction pieces generalizing bound with
  | nil => rfl
  | cons piece rest ih =>
    cases piece with
    | text content => simp [ih]
    | value place found =>
      simp [ih, hidesValue (bound + 1) (first place found) (second place found)]

end OpenPiece

/-- What is rendered of a node is told by its script. -/
theorem Node.render_eq (node : Node) (mode : RenderMode) :
    node.render mode =
      match node.script.violation with
      | some violation => .error violation
      | none => .ok
        { sql := Piece.textFrom mode.mark 0 node.script.pieces
          arguments := mode.argumentsFrom 0 (Piece.boundValues node.script.pieces) } := by
  have written := node.run_write ({} : Context mode)
  rw [Node.render, Writer.render, written]
  cases violation : node.script.violation <;> simp [Script.outcome, violation]

theorem RenderMode.mark_hides_value {mode : RenderMode} (parameterized : mode ≠ .raw)
    (number : Nat) (first second : Scalar) : mode.mark number first = mode.mark number second := by
  cases mode with
  | raw => exact absurd rfl parameterized
  | named => rfl
  | positional => rfl

theorem RenderMode.argumentsFrom_named (slots : List (Place × Scalar)) (revision : Revision) :
    named.argumentsFrom 0 (slots.map fun slot => revision slot.1 slot.2) =
      slots.mapIdx fun index slot =>
        ("arg_" ++ toString (index + 1), revision slot.1 slot.2) := by
  rw [argumentsFrom, List.mapIdx_eq_zipIdx_map, List.mapIdx_eq_zipIdx_map, List.zipIdx_map,
    List.map_map]
  apply List.map_congr_left
  intro slot _
  simp [argumentName]

theorem Template.of_render {mode : RenderMode} {node : Node} {template : Template}
    {revision : Revision} {rendered : Context mode} (filled : node.script = template.fill revision)
    (success : node.render mode = .ok rendered) :
    rendered.sql =
        Piece.textFrom mode.mark 0 (template.pieces.map (OpenPiece.fill revision)) ∧
      rendered.arguments =
        mode.argumentsFrom 0
          ((OpenPiece.slots template.pieces).map fun slot => revision slot.1 slot.2) := by
  rw [Node.render_eq, filled] at success
  cases broken : template.violation with
  | some violation => simp [Template.fill, broken] at success
  | none =>
    simp only [Template.fill, broken, OpenPiece.boundValues_fill] at success
    cases success
    exact ⟨rfl, rfl⟩

/-- Whatever is put in the places of its values, a node is as empty as before, it breaks the same
rule of construction if it breaks one, and its text in the named and the positional mode is the
same.  Each of its arguments comes from one place. -/
theorem Node.render_revise (node : Node) :
    ∃ slots : List (Place × Scalar), ∀ revision : Revision, revision.KeepsNonNull →
      (node.revise revision).isEmpty = node.isEmpty ∧
      (∀ mode violation, (node.revise revision).render mode = .error violation ↔
        node.render mode = .error violation) ∧
      (∀ first second, node.render .named = .ok first →
        (node.revise revision).render .named = .ok second →
        first.sql = second.sql ∧
        first.arguments = (slots.mapIdx fun index slot =>
          ("arg_" ++ toString (index + 1), slot.2)) ∧
        second.arguments = (slots.mapIdx fun index slot =>
          ("arg_" ++ toString (index + 1), revision slot.1 slot.2))) ∧
      (∀ first second, node.render .positional = .ok first →
        (node.revise revision).render .positional = .ok second →
        first.sql = second.sql ∧
        first.arguments = (slots.map fun slot => slot.2) ∧
        second.arguments = (slots.map fun slot => revision slot.1 slot.2)) := by
  obtain ⟨template, findsNoNull, fills⟩ := node.uniform_script
  have own : node.script = template.fill .unchanged := by
    have unchanged := fills .unchanged Revision.keepsNonNull_unchanged
    simpa only [Node.revise_unchanged] using unchanged
  refine ⟨OpenPiece.slots template.pieces, fun revision keeps => ?_⟩
  have revised : (node.revise revision).script = template.fill revision := fills revision keeps
  refine ⟨Node.isEmpty_revise revision node, ?_, ?_, ?_⟩
  · intro mode violation
    rw [Node.render_eq, Node.render_eq, own, revised]
    cases broken : template.violation <;> simp [Template.fill, broken]
  · intro first second ownRendered revisedRendered
    obtain ⟨ownText, ownArguments⟩ := Template.of_render own ownRendered
    obtain ⟨revisedText, revisedArguments⟩ := Template.of_render revised revisedRendered
    rw [ownText, revisedText, ownArguments, revisedArguments]
    refine ⟨?_, RenderMode.argumentsFrom_named _ _, RenderMode.argumentsFrom_named _ _⟩
    exact OpenPiece.textFrom_fill (RenderMode.mark_hides_value (by simp)) _ _ 0 _
  · intro first second ownRendered revisedRendered
    obtain ⟨ownText, ownArguments⟩ := Template.of_render own ownRendered
    obtain ⟨revisedText, revisedArguments⟩ := Template.of_render revised revisedRendered
    rw [ownText, revisedText, ownArguments, revisedArguments]
    refine ⟨?_, rfl, rfl⟩
    exact OpenPiece.textFrom_fill (RenderMode.mark_hides_value (by simp)) _ _ 0 _

/-- Bound values never influence the text.  Each argument of a node comes from a fixed place of it.
A node that differs in values other than NULL alone is as empty as the first one and breaks the same
rule of construction, if any.  However the values of the first node are replaced to get the second,
its text in the named and the positional mode is the same, and so are the number and the names of
its arguments, each of which is the value that was put in its place. -/
theorem Node.render_of_alike (first : Node) :
    ∃ slots : List (Place × Scalar), ∀ second : Node, first.Alike second →
      second.isEmpty = first.isEmpty ∧
      (∀ mode violation, second.render mode = .error violation ↔
        first.render mode = .error violation) ∧
      (∃ revision : Revision, revision.KeepsNonNull ∧ first.revise revision = second) ∧
      ∀ revision : Revision, revision.KeepsNonNull → first.revise revision = second →
        (∀ ownContext otherContext, first.render .named = .ok ownContext →
          second.render .named = .ok otherContext →
          ownContext.sql = otherContext.sql ∧
          ownContext.arguments = (slots.mapIdx fun index slot =>
            ("arg_" ++ toString (index + 1), slot.2)) ∧
          otherContext.arguments = (slots.mapIdx fun index slot =>
            ("arg_" ++ toString (index + 1), revision slot.1 slot.2))) ∧
        (∀ ownContext otherContext, first.render .positional = .ok ownContext →
          second.render .positional = .ok otherContext →
          ownContext.sql = otherContext.sql ∧
          ownContext.arguments = (slots.map fun slot => slot.2) ∧
          otherContext.arguments = (slots.map fun slot => revision slot.1 slot.2)) := by
  obtain ⟨slots, rendered⟩ := first.render_revise
  refine ⟨slots, fun second alike => ?_⟩
  obtain ⟨revision, keeps, revised⟩ := alike.exists_revise
  obtain ⟨sameEmptiness, sameViolation, -⟩ := rendered revision keeps
  rw [revised] at sameEmptiness
  simp only [revised] at sameViolation
  refine ⟨sameEmptiness, sameViolation, ⟨revision, keeps, revised⟩, ?_⟩
  intro other otherKeeps otherRevised
  obtain ⟨-, -, renderedAlike⟩ := rendered other otherKeeps
  rw [otherRevised] at renderedAlike
  exact renderedAlike

/-- The first of two equal values is replaced by a text.  The text of the rows stays, and of the two
arguments only the first one is another. -/
theorem Node.render_of_alike_rows :
    let first := Node.values [[.value (.signed 1), .value .null, .value (.signed 1)]]
    let second := Node.values [[.value (.text "one"), .value .null, .value (.signed 1)]]
    first.Alike second ∧
    first.render .positional =
      .ok { sql := "VALUES ($1, NULL, $2)", arguments := [.signed 1, .signed 1] } ∧
    second.render .positional =
      .ok { sql := "VALUES ($1, NULL, $2)", arguments := [.text "one", .signed 1] } ∧
    ∃ (slots : List (Place × Scalar)) (revision : Revision),
      revision.KeepsNonNull ∧ first.revise revision = second ∧
      [.signed 1, .signed 1] = (slots.map fun slot => slot.2) ∧
      [.text "one", .signed 1] = (slots.map fun slot => revision slot.1 slot.2) := by
  intro first second
  have alike : first.Alike second := rfl
  have ownRendered : first.render .positional =
      .ok { sql := "VALUES ($1, NULL, $2)", arguments := [.signed 1, .signed 1] } := rfl
  have otherRendered : second.render .positional =
      .ok { sql := "VALUES ($1, NULL, $2)", arguments := [.text "one", .signed 1] } := rfl
  obtain ⟨slots, tied⟩ := first.render_of_alike
  obtain ⟨-, -, ⟨revision, keeps, revised⟩, places⟩ := tied second alike
  obtain ⟨-, ownArguments, otherArguments⟩ :=
    (places revision keeps revised).2 _ _ ownRendered otherRendered
  exact ⟨alike, ownRendered, otherRendered, slots, revision, keeps, revised, ownArguments,
    otherArguments⟩

end SqlTree
