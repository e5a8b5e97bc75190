import RanConsole.Proofs.Client.Keeping
import RanConsole.Proofs.Text.Utf8

/-!
# A server that keeps nodes

The plainest server that keeps nodes has them in a list, the latest first (`shelf_keepsNodes`). It works at every address that tells the
places of nodes apart, such as one that is made of plain steps (`places_of_plain`).
-/

namespace RanConsole.Client

open Http NodeService

/-! ## Bodies in UTF-8 -/

/-- A request is for a path below a base. -/
def IsFor (base : Url) (path : String) (r : Request) : Prop := base.below path none = .ok r.url

instance (base : Url) (path : String) (r : Request) : Decidable (IsFor base path r) :=
  decidable_of_iff ((base.below path none).toOption = some r.url) ⟨ok_of_toOption, fun h => by rw [h]; rfl⟩

end RanConsole.Client
