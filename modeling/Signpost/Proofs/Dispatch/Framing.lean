import Signpost.Proofs.Dispatch.Including
import Signpost.Proofs.Dispatch.Locating
import Signpost.Proofs.Dispatch.Room
import Signpost.Proofs.Http.Response

/-!
# Includes and the including page

An include is refused for a reason that the context alone gives (`Context.refusal?`), and then
nothing happens. One that is not refused dispatches the included page, with a context and a host of
its own, and shows in the response of the including page only (`Site.page_framed`). As every context
is one level deeper than that of the including page, and none deeper than the limit, pages that
include themselves or each other come to an end; only an error page that goes on reporting could
keep them from it.
-/

namespace Signpost

open Http (Request Response Status)

variable {ν : Type}

namespace Site

variable {site : Site ν} {s : State ν} {argument : String}

/-- A page that includes itself is opened once at each depth up to the limit. -/
example :
    let own : Guard Empty := { pattern := none, callback := .page "/" fun _ => .done }
    let app : App Empty := {}
    let opened := app.openings { published := { filters := [own] } } { uri := { path := "/" } }
    opened.map (·.context.depth) = [0, 1, 2, 3, 4, 5, 6, 7, 8] := by
  decide +kernel

end Site

end Signpost
