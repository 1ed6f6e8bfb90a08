import FileQuery.Number.Decimal

/-!
# Accounts

Files belong to numbered users and groups, whose names are in two databases. A number without a
name is shown in decimal. Looking up a name can be slow, so `CachedAccounts` asks each database at
most once about a number and remembers the answer, also that there is none.

A database that is asked always answers. One that cannot be read is no different here from one
without names.
-/

namespace FileQuery

abbrev NameTable := UInt32 → Option String

inductive AccountTable where
  | users
  | groups
  deriving DecidableEq, Repr

structure Accounts where
  userName : NameTable
  groupName : NameTable

namespace Accounts

def nameOrNumber (name : Option String) (id : UInt32) : String :=
  name.getD (Decimal.ofNat id.toNat)

/-- The names in one of the two databases. -/
def table (accounts : Accounts) : AccountTable → NameTable
  | .users => accounts.userName
  | .groups => accounts.groupName

def ownerOf (accounts : Accounts) (id : UInt32) : String :=
  nameOrNumber (accounts.userName id) id

def groupOf (accounts : Accounts) (id : UInt32) : String :=
  nameOrNumber (accounts.groupName id) id

inductive Question where
  | userName (id : UInt32)
  | groupName (id : UInt32)
  | ownerOf (id : UInt32)
  | groupOf (id : UInt32)
  deriving DecidableEq, Repr

def answer (accounts : Accounts) : Question → Option String
  | .userName id => accounts.userName id
  | .groupName id => accounts.groupName id
  | .ownerOf id => some (accounts.ownerOf id)
  | .groupOf id => some (accounts.groupOf id)

end Accounts

abbrev NameCache := List (UInt32 × Option String)

/-- A look-up through a cache: the answer, the cache after it, and whether the database was
asked. -/
structure Fetch where
  answer : Option String
  cache : NameCache
  asked : Bool

/-- Looks a number up, in the cache if it is there and else in the database. -/
def NameCache.fetch (cache : NameCache) (table : NameTable) (id : UInt32) : Fetch :=
  match cache.lookup id with
  | some answer => { answer, cache, asked := false }
  | none => { answer := table id, cache := (id, table id) :: cache, asked := true }

structure CachedAccounts where
  accounts : Accounts
  users : NameCache := []
  groups : NameCache := []

namespace CachedAccounts

/-- Accounts of which nothing is known yet. -/
def fresh (accounts : Accounts) : CachedAccounts where
  accounts

/-- Looks a user up. The last component holds the number if the database was asked about it. -/
def fetchUser (cached : CachedAccounts) (id : UInt32) :
    Option String × CachedAccounts × List (AccountTable × UInt32) :=
  let fetch := cached.users.fetch cached.accounts.userName id
  (fetch.answer, { cached with users := fetch.cache }, if fetch.asked then [(.users, id)] else [])

/-- Looks a group up. The last component holds the number if the database was asked about it. -/
def fetchGroup (cached : CachedAccounts) (id : UInt32) :
    Option String × CachedAccounts × List (AccountTable × UInt32) :=
  let fetch := cached.groups.fetch cached.accounts.groupName id
  (fetch.answer, { cached with groups := fetch.cache },
    if fetch.asked then [(.groups, id)] else [])

/-- Answers a question, with the accounts after it and the questions put to the databases. -/
def ask (cached : CachedAccounts) :
    Accounts.Question → Option String × CachedAccounts × List (AccountTable × UInt32)
  | .userName id => cached.fetchUser id
  | .groupName id => cached.fetchGroup id
  | .ownerOf id =>
      let (name, after, asked) := cached.fetchUser id
      (some (Accounts.nameOrNumber name id), after, asked)
  | .groupOf id =>
      let (name, after, asked) := cached.fetchGroup id
      (some (Accounts.nameOrNumber name id), after, asked)

/-- Answers questions one after another, and lists what the databases were asked. -/
def askAll (cached : CachedAccounts) :
    List Accounts.Question → List (Option String) × List (AccountTable × UInt32)
  | [] => ([], [])
  | question :: questions =>
      let (answer, after, asked) := cached.ask question
      let (answers, later) := after.askAll questions
      (answer :: answers, asked ++ later)

/-- The accounts after some questions. -/
def after (cached : CachedAccounts) : List Accounts.Question → CachedAccounts
  | [] => cached
  | question :: questions => (cached.ask question).2.1.after questions

/-- The numbers without a name that some questions bring up for the first time. -/
def missing (cached : CachedAccounts) (questions : List Accounts.Question) :
    List (AccountTable × UInt32) :=
  (cached.askAll questions).2.filter fun (table, id) => (cached.accounts.table table id).isNone

end CachedAccounts

end FileQuery
