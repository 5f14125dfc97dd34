import RemoteSql.SortedMap

/-!
# The session cache

A session id is cached for a server, a user and a database.
-/

namespace RemoteSql

structure SessionKey where
  serverUrl : String
  username : String
  database : String
  deriving DecidableEq, Repr

namespace SessionKey

/-- Keys are ordered by server, then by user, then by database. -/
def Less (a b : SessionKey) : Prop :=
  a.serverUrl < b.serverUrl ∨ a.serverUrl = b.serverUrl ∧
    (a.username < b.username ∨ a.username = b.username ∧ a.database < b.database)

instance : LT SessionKey := ⟨Less⟩

instance : DecidableLT SessionKey := fun _ _ => inferInstanceAs (Decidable (_ ∨ _ ∧ (_ ∨ _ ∧ _)))

/-- User, server and database in one line. -/
def display (k : SessionKey) : String := k.username ++ "@" ++ k.serverUrl ++ "/" ++ k.database

end SessionKey

abbrev SessionStore := SortedMap SessionKey String

namespace SessionStore

def find? (s : SessionStore) (k : SessionKey) : Option String := SortedMap.get? s k

def set (s : SessionStore) (k : SessionKey) (id : String) : SessionStore := SortedMap.insert s k id

def remove (s : SessionStore) (k : SessionKey) : SessionStore := SortedMap.erase s k

def contains (s : SessionStore) (k : SessionKey) : Bool := (s.find? k).isSome

def list (s : SessionStore) : List SessionKey := SortedMap.keys s

@[simp] theorem find?_set_self (s : SessionStore) (k : SessionKey) (id : String) :
    (s.set k id).find? k = some id := SortedMap.get?_insert_self s k id

theorem find?_set_of_ne {k k' : SessionKey} (h : k' ≠ k) (s : SessionStore) (id : String) :
    (s.set k id).find? k' = s.find? k' := SortedMap.get?_insert_of_ne h s id

@[simp] theorem find?_remove_self (s : SessionStore) (k : SessionKey) :
    (s.remove k).find? k = none := SortedMap.get?_erase_self s k

theorem find?_remove_of_ne {k k' : SessionKey} (h : k' ≠ k) (s : SessionStore) :
    (s.remove k).find? k' = s.find? k' := SortedMap.get?_erase_of_ne h s

end SessionStore

end RemoteSql
