import Switchboard.Store.Basic

/-!
What a session asks of the place where it remembers things.
-/

namespace Switchboard

/-- A place that holds values under keys and may fail. -/
class KeyValueStore (S : Type) where
  /-- The value of a key. -/
  read : S → String → Except StoreError (Option String)
  /-- Sets the value of a key. -/
  write : S → String → String → Except StoreError S
  /-- Removes a key. -/
  remove : S → String → Except StoreError S

/-- Memory does not fail. -/
instance : KeyValueStore Store where
  read store key := .ok (store.get? key)
  write store key value := .ok (store.set key value)
  remove store key := .ok (store.erase key)

end Switchboard
