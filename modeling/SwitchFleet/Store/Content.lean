import SwitchFleet.Keyed
import SwitchFleet.Store.Database

/-!
# Content of the device store

In every logical database, keys lead to hashes, which are maps from field names to texts.

* `Content`: the hashes of all databases.
* `Content.hash`, `Content.field`: what is stored under a key.
* `Content.setField`: the content with one field of a hash set.
* `Content.matching`: the keys that a pattern matches.
-/

namespace SwitchFleet

/-- The fields of one key. -/
abbrev Hash : Type := Keyed String

/-- The hashes of all databases. What is stored under a name that is no database is kept apart. -/
structure Content where
  tables : List (Option Database × Keyed Hash)
deriving DecidableEq

/-- The value of a field, or the empty text for a field that is missing. -/
def Hash.text (h : Hash) (field : String) : String := (Keyed.get? field h).getD ""

namespace Content

def empty : Content := ⟨[]⟩

/-- The hashes of a database. -/
def table (c : Content) (db : Option Database) : Keyed Hash := (c.tables.lookup db).getD []

/-- The tables with those of one database replaced. -/
def replaceTable (db : Option Database) (t : Keyed Hash) :
    List (Option Database × Keyed Hash) → List (Option Database × Keyed Hash)
  | [] => [(db, t)]
  | e :: es => if e.1 = db then (db, t) :: es else e :: replaceTable db t es

/-- The content with the hashes of one database replaced. -/
def setTable (c : Content) (db : Option Database) (t : Keyed Hash) : Content :=
  ⟨replaceTable db t c.tables⟩

/-- The fields of a key, none if the key does not exist. -/
def hash (c : Content) (db : Option Database) (key : String) : Hash :=
  ((c.table db).get? key).getD []

/-- The value of a field of a key. -/
def field (c : Content) (db : Option Database) (key field : String) : Option String :=
  (c.hash db key).get? field

def has (c : Content) (db : Option Database) (key : String) : Bool := (c.table db).has key

/-- The content with the fields of one key replaced. -/
def setHash (c : Content) (db : Option Database) (key : String) (h : Hash) : Content :=
  c.setTable db ((c.table db).put key h)

/-- The content with one field of a key set. The key exists afterwards. -/
def setField (c : Content) (db : Option Database) (key field value : String) : Content :=
  c.setHash db key ((c.hash db key).put field value)

/-- The content with several fields of a key set. The key exists afterwards. -/
def setFields (c : Content) (db : Option Database) (key : String)
    (fields : List (String × String)) : Content :=
  c.setHash db key (fields.foldl (fun h f => h.put f.1 f.2) (c.hash db key))

/-- The content with several fields of a key set, if there are any fields to set. -/
def addFields (c : Content) (db : Option Database) (key : String)
    (fields : List (String × String)) : Content :=
  if fields.isEmpty then c else c.setFields db key fields

/-- Whether a pattern matches a key: a pattern that ends in a star matches all keys that begin with
the text before it, and any other pattern matches itself. -/
def matchesKey (pattern key : String) : Bool :=
  match pattern.toList.reverse with
  | '*' :: start => start.reverse.isPrefixOf key.toList
  | _ => key == pattern

/-- The keys that a pattern matches, in ascending order. -/
def matching (c : Content) (db : Option Database) (pattern : String) : List String :=
  (c.table db).names.filter (matchesKey pattern)

/-! ## What is found after a change -/

theorem lookup_replaceTable (db db' : Option Database) (t : Keyed Hash)
    (ts : List (Option Database × Keyed Hash)) :
    (replaceTable db t ts).lookup db' = if db' = db then some t else ts.lookup db' := by
  induction ts with
  | nil => grind [replaceTable]
  | cons e ts ih => grind [replaceTable]

@[simp] theorem table_setTable (c : Content) (db db' : Option Database) (t : Keyed Hash) :
    (c.setTable db t).table db' = if db' = db then t else c.table db' := by
  simp only [table, setTable, lookup_replaceTable]
  split <;> rfl

@[simp] theorem hash_setHash (c : Content) (db db' : Option Database) (key key' : String)
    (h : Hash) :
    (c.setHash db key h).hash db' key' =
      if db' = db ∧ key' = key then h else c.hash db' key' := by
  simp only [hash, setHash, table_setTable]
  by_cases hd : db' = db <;> by_cases hk : key' = key <;> simp [hd, hk]

end Content

end SwitchFleet
