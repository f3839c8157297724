import SqlTree.Proofs.Parse.Recognition
import SqlTree.Proofs.Render.Violations

/-!
# Statements as sequences of parts

A statement is written as its parts in a fixed order with a space between any two of them.  There
is one part that is never missing; of the others, those that are empty leave no trace.  Each part
is written as it is by itself, except that its values are numbered on from those of the parts before
it.
-/

namespace SqlTree

/-! ## Parts set off by spaces -/

namespace Script

/-- The scripts one after the other, each of them behind a space. -/
def spaced : List Script → Script
  | [] => empty
  | script :: rest => text " " ++ script ++ spaced rest

theorem spaced_append (first second : List Script) :
    spaced (first ++ second) = spaced first ++ spaced second := by
  induction first with
  | nil => rfl
  | cons script rest ih => simp only [List.cons_append, spaced, ih, append_assoc]

/-- Whatever follows the first script does so behind a space. -/
theorem separated_cons (script : Script) (rest : List Script) :
    separated " " (script :: rest) = script ++ spaced rest := by
  induction rest generalizing script with
  | nil => exact (append_empty script).symm
  | cons next rest ih => simp only [separated, ih next, spaced, append_assoc]

theorem leading_append_separated (isAbsent : Bool) (script : Script) {rest : List Script}
    (nonempty : rest ≠ []) :
    leading isAbsent script ++ separated " " rest =
      separated " " ((if isAbsent then [] else [script]) ++ rest) := by
  obtain ⟨next, others, rfl⟩ := List.exists_cons_of_ne_nil nonempty
  cases isAbsent <;> rfl

end Script

open Script (spaced)
open Text (isBlank)

namespace Node

/-- The nodes that have something to show. -/
def present (nodes : List Node) : List Node :=
  nodes.filter fun node => !node.isEmpty

@[simp]
theorem present_nil : present [] = [] :=
  rfl

theorem present_cons (node : Node) (rest : List Node) :
    present (node :: rest) = (if node.isEmpty then [] else [node]) ++ present rest := by
  rw [present, List.filter_cons]
  cases node.isEmpty <;> rfl

/-- A clause is left out exactly if its node is not present. -/
theorem spaced_present_cons (node : Node) (rest : List Node) :
    spaced ((present (node :: rest)).map script) =
      .clause node.isEmpty node.script ++ spaced ((present rest).map script) := by
  rw [present_cons]
  cases node.isEmpty <;> rfl

end Node

theorem joinsScript_eq_spaced (joins : List Join) :
    joinsScript joins = spaced (((joins.filter (· ≠ {})).map Node.join).map Node.script) := by
  induction joins with
  | nil => rfl
  | cons join rest ih =>
    rw [joinsScript, ih]
    by_cases isDefault : join = {}
    · simp [isDefault]
    · simp [isDefault, spaced, Node.script]

theorem onConflictScript_eq_spaced (clause : Option OnConflict) :
    onConflictScript clause = spaced ((clause.toList.map Node.onConflict).map Node.script) := by
  cases clause with
  | none => rfl
  | some clause => exact (Script.append_empty _).symm

/-! ## The parts of statements -/

namespace Statement

def trailingText : Statement → String
  | select query => query.trailingText
  | insert statement => statement.trailingText
  | update statement => statement.trailingText
  | delete statement => statement.trailingText

def comment : Statement → String
  | select query => query.comment
  | insert statement => statement.comment
  | update statement => statement.comment
  | delete statement => statement.comment

/-- What stands before the operation, if anything. -/
def opening (statement : Statement) : List Node :=
  Node.present [.outerText statement.leadingText, .withQueries statement.withQueries]

/-- Writes the part that is never missing: the operation with what it cannot do without, and the
columns that rows are inserted into. -/
def writeCore {Target : Type} [Sink Target] : Statement → Writer Target Unit
  | select query => do
    emit (if query.distinct then "SELECT DISTINCT " else "SELECT ")
    emitList (query.items.map SelectItem.write)
  | insert statement => do
    emit "INSERT "
    writeInto statement.table
    unless statement.columns.isEmpty do
      writeColumnNames statement.columns
  | update statement => do
    emit (if statement.only then "UPDATE ONLY " else "UPDATE ")
    statement.table.write
    emit " "
    writeSet statement.assignments
  | delete statement => do
    emit "DELETE "
    statement.source.write

/-- The clauses behind the operation.  A join is passed over if it was left as it is by default; one
that is merely empty is not. -/
def furtherClauses : Statement → List Node
  | select query =>
    Node.present [.fromClause query.source] ++ (query.joins.filter (· ≠ {})).map .join
      ++ Node.present [
        .condition .filter query.filter, .groupBy query.groupBy,
        .condition .having query.having, .orderBy query.orderBy,
        .limit query.limit, .offset query.offset]
  | insert statement =>
    Node.present [.source statement.source] ++ statement.onConflict.toList.map .onConflict
      ++ Node.present [.returning statement.returning]
  | update statement => Node.present [
      .fromClause statement.source, .condition .filter statement.filter,
      .returning statement.returning]
  | delete statement => Node.present [
      .usingTables statement.usingTables, .condition .filter statement.filter,
      .returning statement.returning]

/-- What stands at the very end, if anything. -/
def closing (statement : Statement) : List Node :=
  Node.present [.outerText statement.trailingText, .comment statement.comment]

/-- The writers of the parts that are present, in their order. -/
def parts {Target : Type} [Sink Target] (statement : Statement) : List (Writer Target Unit) :=
  statement.opening.map Node.write ++ statement.writeCore ::
    (statement.furtherClauses ++ statement.closing).map Node.write

/-! ## Their scripts -/

def coreScript : Statement → Script
  | select query =>
    .text (if query.distinct then "SELECT DISTINCT " else "SELECT ")
      ++ .commaSeparated (query.items.map SelectItem.script)
  | insert statement =>
    .text "INSERT " ++ intoScript statement.table
      ++ (if statement.columns.isEmpty then .empty else columnNamesScript statement.columns)
  | update statement =>
    .text (if statement.only then "UPDATE ONLY " else "UPDATE ") ++ statement.table.script
      ++ .text " " ++ setScript statement.assignments
  | delete statement => .text "DELETE " ++ statement.source.script

def partScripts (statement : Statement) : List Script :=
  statement.opening.map Node.script ++ statement.coreScript ::
    (statement.furtherClauses ++ statement.closing).map Node.script

theorem map_play_partScripts {Target : Type} [Sink Target] (statement : Statement) :
    (statement.partScripts.map Script.play : List (Writer Target Unit)) = statement.parts := by
  have core : (statement.coreScript.play : Writer Target Unit) = statement.writeCore := by
    cases statement with
    | select query => simp [coreScript, writeCore, Function.comp_def]
    | insert statement => simp [coreScript, writeCore, Script.play_ite]
    | update statement => simp [coreScript, writeCore]
    | delete statement => simp [coreScript, writeCore]
  have nodes (nodes : List Node) :
      ((nodes.map Node.script).map Script.play : List (Writer Target Unit)) =
        nodes.map Node.write := by
    simp [Node.play_script]
  rw [partScripts, parts, List.map_append, List.map_cons, core, nodes, nodes]

/-- What stands before the operation is set off behind, the rest in front. -/
theorem separated_partScripts (statement : Statement) :
    .separated " " statement.partScripts =
      openingScript statement.leadingText (WithQuery.scripts statement.withQueries)
        ++ (statement.coreScript
        ++ spaced ((statement.furtherClauses ++ statement.closing).map Node.script)) := by
  have noQueries : (WithQuery.scripts statement.withQueries).isEmpty =
      statement.withQueries.isEmpty := by
    cases statement.withQueries <;> rfl
  have opening : statement.opening.map Node.script =
      (if isBlank statement.leadingText then [] else [outerTextScript statement.leadingText])
        ++ if statement.withQueries.isEmpty then []
          else [withScript (WithQuery.scripts statement.withQueries)] := by
    simp only [Statement.opening, Node.present_cons, Node.present_nil, List.append_nil,
      List.map_append, apply_ite (List.map Node.script), List.map_cons, List.map_nil]
    rfl
  rw [← Script.separated_cons, openingScript, noQueries, Script.append_assoc,
    Script.leading_append_separated _ _ (List.cons_ne_nil _ _),
    Script.leading_append_separated _ _ (by simp), partScripts, opening, List.append_assoc]

theorem spaced_closing (statement : Statement) :
    spaced (statement.closing.map Node.script) =
      closingScript statement.trailingText statement.comment := by
  simp only [closing, Node.spaced_present_cons]
  exact congrArg _ (Script.append_empty _)

/-- A statement that is not empty is its parts with a space between any two of them. -/
theorem script_eq_separated {statement : Statement} (present : statement.node.isEmpty = false) :
    statement.node.script = .separated " " statement.partScripts := by
  rw [separated_partScripts, List.map_append, Script.spaced_append, spaced_closing]
  cases statement with
  | select query =>
    have hasItems : query.items.isEmpty = false := present
    simp only [furtherClauses, List.map_append, Script.spaced_append, Node.spaced_present_cons,
      Node.present_nil, List.map_nil, spaced, Script.append_empty, ← joinsScript_eq_spaced, node,
      Node.script, Select.script_eq, Select.body, Select.clauses, hasItems, Script.require_false,
      Script.empty_append, coreScript, Script.append_assoc]
    rfl
  | insert statement =>
    have hasTable : statement.isEmpty = false := present
    simp only [furtherClauses, List.map_append, Script.spaced_append, Node.spaced_present_cons,
      Node.present_nil, List.map_nil, spaced, Script.append_empty, ← onConflictScript_eq_spaced,
      node, Node.script, Insert.script, hasTable, Script.require_false, Script.empty_append,
      coreScript, Script.append_assoc]
    rfl
  | update statement =>
    obtain ⟨hasTable, assigns⟩ := Bool.or_eq_false_iff.mp present
    simp only [furtherClauses, Node.spaced_present_cons, Node.present_nil, List.map_nil, spaced,
      Script.append_empty, node, Node.script, Update.script, hasTable, assigns,
      Script.require_false, Script.empty_append, coreScript, Script.append_assoc]
    rfl
  | delete statement =>
    have hasSource : statement.isEmpty = false := present
    simp only [furtherClauses, Node.spaced_present_cons, Node.present_nil, List.map_nil, spaced,
      Script.append_empty, node, Node.script, Delete.script, hasSource, Script.require_false,
      Script.empty_append, coreScript, Script.append_assoc]
    rfl

theorem isEmpty_of_unbroken {statement : Statement}
    (unbroken : statement.node.script.violation = none) : statement.node.isEmpty = false := by
  rw [← Bool.not_eq_true]
  intro empty
  cases statement with
  | select query =>
    simp [node, Node.script, Select.script_of_isEmpty empty, Script.abort] at unbroken
  | insert statement =>
    simp [node, Node.script, Insert.script_of_isEmpty empty, Script.abort] at unbroken
  | update statement =>
    simp [node, Node.script, Update.script_of_isEmpty empty, Script.abort] at unbroken
  | delete statement =>
    simp [node, Node.script, Delete.script_of_isEmpty empty, Script.abort] at unbroken

end Statement

/-! ## Writing parts in turn -/

section Writing

variable {mode : RenderMode}

/-- Each writer adds its share to the context: a text of its own, and arguments behind those that
the writers before it have added. -/
inductive WrittenInTurn :
    List mode.Argument → List (Writer (Context mode) Unit) → List (Context mode) → Prop
  | nil {before} : WrittenInTurn before [] []
  | cons {before} {part : Writer (Context mode) Unit} {rest} {share : Context mode} {shares}
      (written : part.run { arguments := before } =
        .ok () { share with arguments := before ++ share.arguments })
      (inTurn : WrittenInTurn (before ++ share.arguments) rest shares) :
      WrittenInTurn before (part :: rest) (share :: shares)

/-- What a script adds to a context behind the given arguments. -/
def Script.share (script : Script) (before : List mode.Argument) : Context mode where
  sql := Piece.textFrom mode.mark before.length script.pieces
  arguments := mode.argumentsFrom before.length (Piece.boundValues script.pieces)

@[simp]
theorem Script.share_text (content : String) (before : List mode.Argument) :
    (Script.text content).share before = { sql := content } := by
  simp [share, text]

theorem Script.addAll_pieces (script : Script) (context : Context mode) :
    Sink.addAll context script.pieces =
      { sql := context.sql ++ (script.share context.arguments).sql
        arguments := context.arguments ++ (script.share context.arguments).arguments } :=
  Context.addAll_eq context script.pieces

/-- Of two scripts, the second one finds the arguments that the first one has added. -/
theorem Script.share_append {first : Script} (unbroken : first.violation = none) (second : Script)
    (before : List mode.Argument) :
    (first ++ second).share before =
      { sql := (first.share before).sql
          ++ (second.share (before ++ (first.share before).arguments)).sql
        arguments := (first.share before).arguments
          ++ (second.share (before ++ (first.share before).arguments)).arguments } := by
  have together := (first ++ second).addAll_pieces { arguments := before }
  rw [pieces_append unbroken, Sink.addAll_append, first.addAll_pieces, second.addAll_pieces]
    at together
  obtain ⟨sqlEq, argumentsEq⟩ : _ ∧ _ := by
    simpa [String.append_assoc] using together
  exact congrArg₂ Context.mk sqlEq.symm argumentsEq.symm

theorem Script.run_play {script : Script} (unbroken : script.violation = none)
    (before : List mode.Argument) :
    (script.play : Writer (Context mode) Unit).run { arguments := before } =
      .ok () { (script.share before) with
        arguments := before ++ (script.share before).arguments } := by
  have run : (script.play : Writer (Context mode) Unit).run { arguments := before } =
      script.outcome (Sink.addAll { arguments := before } script.pieces) := rfl
  rw [run, outcome, unbroken, addAll_pieces, String.empty_append]

/-- Scripts with a space between any two of them leave their texts with a space between any two of
them, and their arguments one after the other. -/
theorem Script.exists_shares {scripts : List Script}
    (unbroken : ∀ script ∈ scripts, script.violation = none) (before : List mode.Argument) :
    ∃ shares, WrittenInTurn before (scripts.map play) shares ∧
      (separated " " scripts).share before =
        { sql := " ".intercalate (shares.map Context.sql)
          arguments := shares.flatMap Context.arguments } := by
  induction scripts generalizing before with
  | nil => exact ⟨[], .nil, by simp [separated, share, empty]⟩
  | cons script rest ih =>
    obtain ⟨scriptUnbroken, restUnbroken⟩ := List.forall_mem_cons.mp unbroken
    obtain ⟨shares, inTurn, shared⟩ := ih restUnbroken (before ++ (script.share before).arguments)
    refine ⟨script.share before :: shares, .cons (run_play scriptUnbroken before) inTurn, ?_⟩
    cases rest with
    | nil =>
      cases inTurn
      simp [separated]
    | cons next others =>
      cases inTurn with
      | cons written inTurn =>
        -- There is a next share, so that a space stands between it and the first one.
        have apart : separated " " (script :: next :: others) =
            script ++ text " " ++ separated " " (next :: others) := rfl
        have blankUnbroken : (script ++ text " ").violation = none :=
          violation_append.mpr ⟨scriptUnbroken, rfl⟩
        rw [apart, share_append blankUnbroken, share_append scriptUnbroken]
        simp [shared, String.append_assoc]

theorem Node.eq_share_of_render {node : Node} {context : Context mode}
    (rendered : node.render mode = .ok context) : context = node.script.share [] :=
  (Node.eq_of_render rendered).2

/-- The arguments of a rendered node are numbered from one on. -/
theorem Node.arguments_eq_argumentsFrom {node : Node} {context : Context mode}
    (rendered : node.render mode = .ok context) :
    context.arguments = mode.argumentsFrom 0 context.values := by
  rw [Context.values, Node.eq_share_of_render rendered]
  cases mode with
  | raw => rfl
  | named =>
    refine congrArg (RenderMode.argumentsFrom .named 0) (List.ext_getElem ?_ ?_)
    · simp [Script.share, RenderMode.argumentsFrom]
    · simp [Script.share, RenderMode.argumentsFrom, RenderMode.argumentValue]
  | positional => exact (List.map_id' _).symm

end Writing

/-- A rendered statement is its present parts in their order, written one after the other, with a
space between any two of them.  Each of them is written as it is by itself, behind the arguments of
those before it, so that the arguments are those of the parts in the same order and are numbered
from one on. -/
theorem Statement.assembled_from_parts (statement : Statement) (mode : RenderMode)
    (context : Context mode) (rendered : statement.node.render mode = .ok context) :
    ∃ shares, WrittenInTurn [] statement.parts shares ∧
      context.sql = " ".intercalate (shares.map Context.sql) ∧
      context.arguments = shares.flatMap Context.arguments ∧
      context.arguments = mode.argumentsFrom 0 context.values := by
  have unbroken := (Node.sql_eq_of_render rendered).1
  have separated := script_eq_separated (isEmpty_of_unbroken unbroken)
  have partsUnbroken : ∀ script ∈ statement.partScripts, script.violation = none := by
    rw [separated] at unbroken
    exact Script.violation_separated.mp unbroken
  obtain ⟨shares, inTurn, shared⟩ :=
    Script.exists_shares partsUnbroken ([] : List mode.Argument)
  rw [statement.map_play_partScripts] at inTurn
  have contextEq := Node.eq_share_of_render rendered
  rw [separated, shared] at contextEq
  exact ⟨shares, inTurn, congrArg Context.sql contextEq, congrArg Context.arguments contextEq,
    Node.arguments_eq_argumentsFrom rendered⟩

/-- An update of the users of one team, with a value in the query that it names. -/
def teamUpdate : Update where
  withQueries := [⟨"idle", {
    items := [.column { name := "id" }]
    source := { table := { name := "sessions" } }
    filter := some (.binary (.identifier "days") (.comparison .greaterThan) (.value (.signed 30)))
  }⟩]
  table := { name := "users" }
  assignments := [⟨{ name := "active" }, .value (.boolean false)⟩]
  filter := some (.binary (.identifier "team") (.comparison .equal) (.value (.text "a b")))
  trailingText := " \n"
  comment := "nightly"

theorem Statement.assembled_from_parts_of_teamUpdate :
    ∃ context : Context .named,
      (Statement.update teamUpdate).node.render .named = .ok context ∧
      context.sql = "WITH idle AS (SELECT id FROM sessions WHERE (days > :arg_1)) " ++
        "UPDATE users SET active = :arg_2 WHERE (team = :arg_3) /* nightly */" ∧
      ∃ shares, WrittenInTurn [] (Statement.update teamUpdate).parts shares ∧
        context.sql = " ".intercalate (shares.map Context.sql) ∧
        context.arguments = shares.flatMap Context.arguments ∧
        context.arguments = RenderMode.named.argumentsFrom 0 context.values := by
  have unbroken : teamUpdate.script.violation = none := by decide +kernel
  have sqlEq : Piece.textFrom RenderMode.named.mark 0 teamUpdate.script.pieces =
      "WITH idle AS (SELECT id FROM sessions WHERE (days > :arg_1)) " ++
        "UPDATE users SET active = :arg_2 WHERE (team = :arg_3) /* nightly */" := by
    decide +kernel
  have rendered := Node.render_eq (.update teamUpdate) .named
  simp only [Node.script, unbroken] at rendered
  exact ⟨_, rendered, sqlEq,
    Statement.assembled_from_parts (.update teamUpdate) .named _ rendered⟩

end SqlTree
