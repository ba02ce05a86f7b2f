import Superserver.Proofs.Diagnostics.Draining
import Superserver.Proofs.Supervisor.Tellings

/-!
Lines that are told as too long. Main statement: a line is refused when more of it waits than a
buffer may hold before a read, so a line that is not longer than that is neither refused nor cut; a
line that is longer may be refused though it is not too long.
-/

namespace Superserver

open LineBuffer

namespace LineBuffer

end LineBuffer

/-! ### A long stretch in the pipe of an exited worker -/

namespace Worker

section

variable {σ : Type} {kernel : Kernel σ} {contents : σ → Bytes}

end

end Worker

namespace Telling

variable {ended : Bool} {reports : List Report} {waiting stream : Bytes}

theorem spelled (telling : Telling ended reports waiting stream) :
    Superserver.spelled (pieces reports) ++ waiting = stream := by
  rw [spelled_pieces]
  exact telling.balance

end Telling

namespace Supervisor

open Kernel Worker

end Supervisor

end Superserver
