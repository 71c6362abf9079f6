import Switchboard.Association

/-!
Key/value stores for the little state that outlives a run, such as the service last connected to.
-/

namespace Switchboard

/-- Why a store failed. -/
inductive StoreError
  | io (reason : String)
  | database (reason : String)
  deriving DecidableEq, Repr

def StoreError.message : StoreError → String
  | io reason => "IO error: " ++ reason
  | database reason => "Database error: " ++ reason

/-- The key under which the last service is remembered. -/
def lastServiceKey : String := "last_service"

structure Store where
  entries : List (String × String) := []
  deriving DecidableEq, Repr, Inhabited

namespace Store

def get? (store : Store) (key : String) : Option String :=
  store.entries.lookup key

def erase (store : Store) (key : String) : Store :=
  ⟨Association.erase key store.entries⟩

def set (store : Store) (key value : String) : Store :=
  ⟨Association.put key value store.entries⟩

@[simp] theorem get?_set_self (store : Store) (key value : String) :
    (store.set key value).get? key = some value :=
  Association.lookup_put_self key value store.entries

theorem get?_set_of_ne (store : Store) {key other : String} (h : other ≠ key) (value : String) :
    (store.set key value).get? other = store.get? other :=
  Association.lookup_put_of_ne h value store.entries

@[simp] theorem get?_erase_self (store : Store) (key : String) : (store.erase key).get? key = none :=
  Association.lookup_erase_self key store.entries

theorem get?_erase_of_ne (store : Store) {key other : String} (h : other ≠ key) :
    (store.erase key).get? other = store.get? other :=
  Association.lookup_erase_of_ne h store.entries

/-- Removes a key; tells whether it was there. -/
def delete (store : Store) (key : String) : Bool × Store :=
  ((store.get? key).isSome, store.erase key)

def size (store : Store) : Nat :=
  store.entries.length

end Store

end Switchboard
