import Superserver.Proofs.Supervisor.LongLines
import Superserver.Proofs.Text.Slices

/-!
The texts of the pieces of workers that write UTF-8. Main statement: each piece is decoded by
itself, so a character that a cut goes through shows as replacement characters on both sides of the
cut, and everything else is told as it was written.
-/

namespace Superserver

open LineBuffer Utf8

/-! ### Newlines in encoded texts -/

namespace Telling

variable {ended : Bool} {reports : List Report} {waiting stream : Bytes}

variable {written : List Char}

end Telling

namespace Supervisor

open Kernel Worker

end Supervisor

end Superserver
