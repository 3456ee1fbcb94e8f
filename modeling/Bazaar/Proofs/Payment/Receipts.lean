import Mathlib
import Bazaar.Proofs.Payment.Replay

/-!
# What a webhook answers

A webhook delivery fails only at its two checks, and then changes nothing: a body whose signature
does not check fails as the signature check does, and a body that then does not decode fails as
decoding does. Every other delivery is answered with a receipt, and a receipt that is not
`processed` leaves the market as it was (`Market.webhook_fails_only_at_its_checks`).

The checks fail with more than refusals of a signature or of a payload: a digest with a character
outside ASCII cannot be compared and fails as a type error, and so does a tolerance of the wrong
type; converting an amount in minor units fails on the decimal context or on a double's range.
Those faults, too, are passed on unchanged, with the market as it was.
-/

open Std.Do

set_option mvcgen.warning false

namespace Bazaar

namespace Market

/-- A delivery fails only with the fault of its signature check, or with the fault of decoding a
body whose signature checked; a receipt comes only from a body that decoded. -/
theorem receiveWebhook_checked (body : List UInt8) (signature : String) (m₀ : Market) :
    ⦃fun m => ⌜m = m₀⌝⦄ receiveWebhook body signature
    ⦃post⟨fun _ _ => ⌜∃ ev, Webhook.decode body = .ok ev⌝,
      fun e _ => ⌜Webhook.verify body signature m₀.gateway.webhookSecret m₀.gateway.tolerance
          m₀.clock = .error e ∨
        Webhook.verify body signature m₀.gateway.webhookSecret m₀.gateway.tolerance m₀.clock =
          .ok () ∧ Webhook.decode body = .error e⌝⟩⦄ := by
  mvcgen [receiveWebhook, reconcile_spec]
  all_goals simp_all
  -- what is left: each receipt, which comes after the body decoded to some event
  all_goals exact ⟨_, (‹_ ∧ Except.ok _ = Webhook.decode body›).2.symm⟩

/-- A webhook fails only at its checks, and then changes nothing: with the fault of its signature
check, or, once the signature checks, with the fault of decoding its body. Any other delivery is
answered with a receipt, only after both checks passed, and a receipt that is not `processed`
leaves the market as it was. -/
theorem webhook_fails_only_at_its_checks (body : List UInt8) (signature : String) (m : Market) :
    match run (receiveWebhook body signature) m with
    | (.error f, m') => m' = m ∧
        (Webhook.verify body signature m.gateway.webhookSecret m.gateway.tolerance m.clock =
            .error f ∨
          Webhook.verify body signature m.gateway.webhookSecret m.gateway.tolerance m.clock =
            .ok () ∧ Webhook.decode body = .error f)
    | (.ok rc, m') =>
      Webhook.verify body signature m.gateway.webhookSecret m.gateway.tolerance m.clock = .ok () ∧
        (∃ ev, Webhook.decode body = .ok ev) ∧ (rc.status ≠ "processed" → m' = m) := by
  have checked :=
    run_of_triple (P := fun m' => m' = m) rfl (receiveWebhook_checked body signature m)
  have settled :=
    run_of_triple (P := fun m' => m' = m) rfl (receiveWebhook_settled body signature m)
  rcases outcome : run (receiveWebhook body signature) m with ⟨_ | rc, m'⟩ <;>
    simp only [outcome] at checked settled ⊢
  · exact ⟨settled, checked⟩
  · obtain ⟨unprocessed, -, -, verified⟩ := settled
    exact ⟨verified, checked, unprocessed⟩

end Market

end Bazaar
