import PropertyGraph.Cypher.Grammar.Statement
import PropertyGraph.Proofs.Cypher.Failure

/-!
When a failure to read statements is flagged as one at the end.

No rule of the grammar fails before the place where it starts. The flag says that no token is left
where one fails, which by the places of tokens is that the failure is at the end of the text.
-/

namespace PropertyGraph

namespace Cypher

namespace Grammar

/-- The parsers for what is inside do not fail before the place where they start. -/
structure Inner.Stays (inner : Inner) : Prop where
  expr : Grammar.Stays inner.expr
  clause : Grammar.Stays inner.clause

section

variable {inner : Inner} (h : inner.Stays)

/-! ### Patterns -/

include h

omit h

include h

end

end Grammar

/-! ### Texts -/

end Cypher

end PropertyGraph
