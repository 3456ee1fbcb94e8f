import Mathlib
import Bazaar.Proofs.Market.Access
import Bazaar.Proofs.Market.Records

/-!
# What the cart commands do to the store

The cart commands write carts and nothing else: they look at the catalogue only to check that a
product can be bought in the quantity asked, and a customer's cart is created on first use. A
cart command that fails leaves the store as it found it, since it runs in a unit of work.
-/

open Std.Do

set_option mvcgen.warning false

namespace Bazaar

namespace Market

open Store

@[spec]
theorem available_spec (productId : String) (m₀ : Market) :
    ⦃fun m => ⌜m = m₀⌝⦄ available productId
    ⦃post⟨fun _ m => ⌜m = m₀⌝, fun _ m => ⌜m = m₀⌝⟩⦄ := by
  mvcgen [available]
  all_goals simp_all

@[spec]
theorem ensureCanHold_spec (productId : String) (quantity : Int) (m₀ : Market) :
    ⦃fun m => ⌜m = m₀⌝⦄ ensureCanHold productId quantity
    ⦃post⟨fun _ m => ⌜m = m₀⌝, fun _ m => ⌜m = m₀⌝⟩⦄ := by
  mvcgen [ensureCanHold]
  all_goals simp_all

/-- Finding or making a customer's cart writes at most the carts. -/
@[spec]
theorem cartFor_spec (customer : Json) (s₀ : Store) :
    ⦃fun m => ⌜m.store = s₀⌝⦄ cartFor customer
    ⦃post⟨fun _ m => ⌜{ m.store with carts := s₀.carts } = s₀⌝, fun _ _ => ⌜True⌝⟩⦄ := by
  mvcgen [cartFor]
  all_goals simp_all [putCart_eq]

theorem addToCart_spec (customerId productId : String) (quantity : Int) (s₀ : Store) :
    ⦃fun m => ⌜m.store = s₀⌝⦄ addToCart customerId productId quantity
    ⦃post⟨fun _ m => ⌜{ m.store with carts := s₀.carts } = s₀⌝, fun _ _ => ⌜True⌝⟩⦄ := by
  mvcgen [addToCart]
  all_goals simp_all [putCart_eq]

theorem updateCartItem_spec (customerId productId : String) (quantity : Int) (s₀ : Store) :
    ⦃fun m => ⌜m.store = s₀⌝⦄ updateCartItem customerId productId quantity
    ⦃post⟨fun _ m => ⌜{ m.store with carts := s₀.carts } = s₀⌝, fun _ _ => ⌜True⌝⟩⦄ := by
  mvcgen [updateCartItem]
  all_goals simp_all [putCart_eq]

theorem removeFromCart_spec (customerId productId : String) (s₀ : Store) :
    ⦃fun m => ⌜m.store = s₀⌝⦄ removeFromCart customerId productId
    ⦃post⟨fun _ m => ⌜{ m.store with carts := s₀.carts } = s₀⌝, fun _ _ => ⌜True⌝⟩⦄ := by
  mvcgen [removeFromCart]
  all_goals simp_all [putCart_eq]

theorem clearCart_spec (customerId : String) (s₀ : Store) :
    ⦃fun m => ⌜m.store = s₀⌝⦄ clearCart customerId
    ⦃post⟨fun _ m => ⌜{ m.store with carts := s₀.carts } = s₀⌝, fun _ _ => ⌜True⌝⟩⦄ := by
  mvcgen [clearCart]
  all_goals simp_all [putCart_eq]

namespace Command

theorem addToCart_spec (given : Field.Given) (s₀ : Store) :
    ⦃fun m => ⌜m.store = s₀⌝⦄ Command.addToCart given
    ⦃post⟨fun _ m => ⌜{ m.store with carts := s₀.carts } = s₀⌝, fun _ m => ⌜m.store = s₀⌝⟩⦄ := by
  mvcgen [Command.addToCart, Command.checked, unitOfWork_spec, Market.addToCart_spec]
  all_goals simp_all

theorem updateCartItem_spec (given : Field.Given) (s₀ : Store) :
    ⦃fun m => ⌜m.store = s₀⌝⦄ Command.updateCartItem given
    ⦃post⟨fun _ m => ⌜{ m.store with carts := s₀.carts } = s₀⌝, fun _ m => ⌜m.store = s₀⌝⟩⦄ := by
  mvcgen [Command.updateCartItem, Command.checked, unitOfWork_spec, Market.updateCartItem_spec]
  all_goals simp_all

theorem removeFromCart_spec (given : Field.Given) (s₀ : Store) :
    ⦃fun m => ⌜m.store = s₀⌝⦄ Command.removeFromCart given
    ⦃post⟨fun _ m => ⌜{ m.store with carts := s₀.carts } = s₀⌝, fun _ m => ⌜m.store = s₀⌝⟩⦄ := by
  mvcgen [Command.removeFromCart, Command.checked, unitOfWork_spec, Market.removeFromCart_spec]
  all_goals simp_all

theorem clearCart_spec (given : Field.Given) (s₀ : Store) :
    ⦃fun m => ⌜m.store = s₀⌝⦄ Command.clearCart given
    ⦃post⟨fun _ m => ⌜{ m.store with carts := s₀.carts } = s₀⌝, fun _ m => ⌜m.store = s₀⌝⟩⦄ := by
  mvcgen [Command.clearCart, Command.checked, unitOfWork_spec, Market.clearCart_spec]
  all_goals simp_all

end Command

end Market

end Bazaar
