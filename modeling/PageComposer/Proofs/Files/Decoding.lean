import Mathlib.Data.Char
import Mathlib.Tactic.SplitIfs
import PageComposer.Files.Decoding

/-!
# Texts of bytes

Decoding reads exactly the bytes that characters are written with. What it asks of a first byte and of
the bytes that continue it is compared with the bytes of characters, by their numbers, one length after
the other.
-/

namespace PageComposer.Files

/-! ## Bytes by their numbers -/

end PageComposer.Files
