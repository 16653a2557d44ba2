import Gatehouse.Refresh.Record

/-!
# Gatehouse.Refresh.Store

What a store of refresh records offers, over a state `σ`. Every call answers and leaves a state,
also when it fails.
-/

namespace Gatehouse

structure RefreshStore (σ : Type) where
  /-- Files a record for a lifetime. A digest that is filed already is refused. -/
  put : SecretDigest → RefreshRecord → Span → σ → Except StoreError Unit × σ
  get : SecretDigest → σ → Except StoreError RefreshRecord × σ
  /-- Removes a record; that there is none is no error. -/
  delete : SecretDigest → σ → Except StoreError Unit × σ
  /-- Moves a record from the first digest to the second with a new issue time and lifetime, in one
  step. If an owner is given, the record has to be that owner's. -/
  rotate : SecretDigest → SecretDigest → Option OwnerId → Instant → Span → σ →
    Except StoreError RefreshRecord × σ

end Gatehouse
