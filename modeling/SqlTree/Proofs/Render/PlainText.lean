import SqlTree.Render.Node

/-!
# Writing plain text

A context does not tell texts that were written one after the other from one text.  A tree in which
no value is bound and no rule is broken is therefore written as a single text, in every mode.
-/

namespace SqlTree

variable {mode : RenderMode}

theorem Context.write_write (context : Context mode) (first second : String) :
    (context.write first).write second = context.write (first ++ second) := by
  simp [write, String.append_assoc]

theorem emit_emit (first second : String) :
    (do emit first; emit second : Writer (Context mode) Unit) = emit (first ++ second) := by
  funext context
  exact congrArg (EStateM.Result.ok ()) (context.write_write first second)

theorem Writer.render_emit (text : String) :
    (emit text : Writer (Context mode) Unit).render = .ok { sql := text } := by
  change Except.ok (Context.write {} text) = .ok { sql := text }
  simp [Context.write]

end SqlTree
