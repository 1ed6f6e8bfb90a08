import FileQuery.Record.Accounts
import Mathlib

/-!
# Cached accounts

Each of the two caches is a part of its own database at all times, with the numbers that have no
name among its rows. A question therefore has the answer that the database gives, whatever was asked
before and by whom; and a database is asked about a number when the number first comes up in a
question about this database, and never again.

Questions may come from several workers, one at a time. Since every order of questions is covered,
no worker sees what the others ask.
-/

namespace FileQuery

section FirstOccurrences

variable {α : Type} [BEq α] [LawfulBEq α]

theorem nodup_eraseDups (items : List α) : items.eraseDups.Nodup := by
  induction length : items.length using Nat.strongRecOn generalizing items with
  | _ length_items ih =>
    cases items with
    | nil => exact List.nodup_nil
    | cons item rest =>
        rw [List.eraseDups_cons, List.nodup_cons]
        constructor
        · simp [List.mem_eraseDups]
        · have shorter := List.length_filter_le (fun other => !other == item) rest
          exact ih _ (by rw [← length, List.length_cons]; omega) _ rfl

theorem filter_eraseDups (keep : α → Bool) (items : List α) :
    items.eraseDups.filter keep = (items.filter keep).eraseDups := by
  induction length : items.length using Nat.strongRecOn generalizing items with
  | _ length_items ih =>
    cases items with
    | nil => rfl
    | cons item rest =>
        have shorter := List.length_filter_le (fun other => !other == item) rest
        have others := ih _ (by rw [← length, List.length_cons]; omega)
          (rest.filter fun other => !other == item) rfl
        rw [List.eraseDups_cons, List.filter_cons, List.filter_cons, others, List.filter_filter]
        cases kept : keep item with
        | true => simp [List.eraseDups_cons, List.filter_filter, Bool.and_comm]
        | false =>
            have same : ∀ other, (keep other && !other == item) = keep other := by
              intro other
              cases here : other == item with
              | true => simp [eq_of_beq here, kept]
              | false => simp
            simp [same]

end FirstOccurrences

namespace NameCache

/-- Every row of the cache is what the table holds. -/
def IsPartOf (cache : NameCache) (table : NameTable) : Prop :=
  ∀ id answer, cache.lookup id = some answer → answer = table id

def knows (cache : NameCache) (id : UInt32) : Bool :=
  (cache.lookup id).isSome

variable {cache : NameCache} {table : NameTable} {id : UInt32}

theorem isPartOf_nil (table : NameTable) : IsPartOf [] table := by
  intro id answer remembered
  cases remembered

theorem answer_fetch (isPart : cache.IsPartOf table) :
    (cache.fetch table id).answer = table id := by
  unfold fetch
  split
  · rename_i answer remembered
    exact isPart id answer remembered
  · rfl

theorem isPartOf_fetch (isPart : cache.IsPartOf table) :
    (cache.fetch table id).cache.IsPartOf table := by
  unfold fetch
  split
  · exact isPart
  · intro other answer remembered
    rw [List.lookup_cons] at remembered
    split at remembered
    · rename_i same
      cases remembered
      rw [eq_of_beq same]
    · exact isPart other answer remembered

theorem asked_fetch : (cache.fetch table id).asked = !cache.knows id := by
  unfold fetch knows
  split
  · rename_i answer remembered
    simp [remembered]
  · rename_i absent
    simp [absent]

/-- After a look-up the cache knows one number more, unless it knew this one before. -/
theorem knows_fetch_iff {other : UInt32} :
    (cache.fetch table id).cache.knows other = true ↔ cache.knows other = true ∨ other = id := by
  unfold fetch knows
  split
  · rename_i answer remembered
    constructor
    · exact Or.inl
    · rintro (known | rfl)
      · exact known
      · rw [remembered]
        rfl
  · rw [List.lookup_cons]
    by_cases same : other = id
    · simp [same]
    · simp [beq_false_of_ne same, same]

end NameCache

namespace Accounts

/-- The database and the number that a question is about. -/
def Question.target : Question → AccountTable × UInt32
  | .userName id | .ownerOf id => (.users, id)
  | .groupName id | .groupOf id => (.groups, id)

end Accounts

namespace CachedAccounts

def cache (cached : CachedAccounts) : AccountTable → NameCache
  | .users => cached.users
  | .groups => cached.groups

def knows (cached : CachedAccounts) (target : AccountTable × UInt32) : Bool :=
  (cached.cache target.1).knows target.2

/-- Each cache is a part of its own database. -/
def Sound (cached : CachedAccounts) : Prop :=
  ∀ table, (cached.cache table).IsPartOf (cached.accounts.table table)

variable {cached : CachedAccounts} {question : Accounts.Question}

theorem sound_fresh (accounts : Accounts) : (fresh accounts).Sound := by
  intro table
  cases table <;> exact NameCache.isPartOf_nil _

theorem knows_fresh (accounts : Accounts) (target : AccountTable × UInt32) :
    (fresh accounts).knows target = false := by
  rcases target with ⟨table, id⟩
  cases table <;> rfl

theorem accounts_ask (question : Accounts.Question) :
    (cached.ask question).2.1.accounts = cached.accounts := by
  cases question <;> rfl

/-- A question looks its number up in one cache and leaves the other one as it is. -/
theorem cache_ask (question : Accounts.Question) (table : AccountTable) :
    (cached.ask question).2.1.cache table =
      if table = question.target.1 then
        ((cached.cache table).fetch (cached.accounts.table table) question.target.2).cache
      else
        cached.cache table := by
  cases question <;> cases table <;> rfl

theorem answer_ask (sound : cached.Sound) (question : Accounts.Question) :
    (cached.ask question).1 = cached.accounts.answer question := by
  have users : ∀ id, (cached.fetchUser id).1 = cached.accounts.userName id :=
    fun _ => NameCache.answer_fetch (sound .users)
  have groups : ∀ id, (cached.fetchGroup id).1 = cached.accounts.groupName id :=
    fun _ => NameCache.answer_fetch (sound .groups)
  cases question with
  | userName id => exact users id
  | groupName id => exact groups id
  | ownerOf id => exact congrArg (fun name => some (Accounts.nameOrNumber name id)) (users id)
  | groupOf id => exact congrArg (fun name => some (Accounts.nameOrNumber name id)) (groups id)

theorem sound_ask (sound : cached.Sound) (question : Accounts.Question) :
    (cached.ask question).2.1.Sound := by
  intro table
  rw [accounts_ask, cache_ask]
  split
  · exact NameCache.isPartOf_fetch (sound table)
  · exact sound table

/-- The database is asked about a number that is not known. -/
theorem asked_ask (question : Accounts.Question) :
    (cached.ask question).2.2 = if cached.knows question.target then [] else [question.target] := by
  have users : ∀ id, (cached.fetchUser id).2.2 =
      if cached.knows (.users, id) then [] else [(.users, id)] := by
    intro id
    simp only [fetchUser, NameCache.asked_fetch, Bool.not_eq_true']
    cases known : cached.knows (.users, id) <;> simp_all [knows, cache]
  have groups : ∀ id, (cached.fetchGroup id).2.2 =
      if cached.knows (.groups, id) then [] else [(.groups, id)] := by
    intro id
    simp only [fetchGroup, NameCache.asked_fetch, Bool.not_eq_true']
    cases known : cached.knows (.groups, id) <;> simp_all [knows, cache]
  cases question with
  | userName id | ownerOf id => exact users id
  | groupName id | groupOf id => exact groups id

theorem knows_ask_iff {question : Accounts.Question} {target : AccountTable × UInt32} :
    (cached.ask question).2.1.knows target = true ↔
      cached.knows target = true ∨ target = question.target := by
  rw [knows, cache_ask, Prod.ext_iff]
  split
  · rename_i same
    rw [NameCache.knows_fetch_iff, and_iff_right same]
    rfl
  · rename_i different
    simp only [different, false_and, or_false]
    rfl

theorem answers_askAll (sound : cached.Sound) (questions : List Accounts.Question) :
    (cached.askAll questions).1 = questions.map cached.accounts.answer := by
  induction questions generalizing cached with
  | nil => rfl
  | cons question questions ih =>
      have first := answer_ask sound question
      have others := ih (sound_ask sound question)
      rw [accounts_ask] at others
      simp only [askAll, List.map_cons, first, others]

/-- The databases are asked, in the order of the questions, about everything that is not known, and
about nothing twice. -/
theorem asked_askAll (questions : List Accounts.Question) :
    (cached.askAll questions).2 =
      ((questions.map Accounts.Question.target).filter
        fun target => !cached.knows target).eraseDups := by
  induction questions generalizing cached with
  | nil => rfl
  | cons question questions ih =>
      have later : ∀ target, (!(cached.ask question).2.1.knows target) =
          (!cached.knows target && !target == question.target) := by
        intro target
        rw [← Bool.not_or, Bool.not_inj_iff, Bool.eq_iff_iff, Bool.or_eq_true, beq_iff_eq]
        exact knows_ask_iff
      simp only [askAll, asked_ask, ih, later, List.map_cons, List.filter_cons]
      cases known : cached.knows question.target with
      | true =>
          have same : ∀ target, (!cached.knows target && !target == question.target) =
              !cached.knows target := by
            intro target
            by_cases here : target = question.target
            · simp [here, known]
            · simp [here]
          simp [same]
      | false =>
          simp [List.eraseDups_cons, List.filter_filter, Bool.and_comm]

theorem accounts_after (questions : List Accounts.Question) :
    (cached.after questions).accounts = cached.accounts := by
  induction questions generalizing cached with
  | nil => rfl
  | cons question questions ih => rw [after, ih, accounts_ask]

theorem asked_append (first second : List Accounts.Question) :
    (cached.askAll (first ++ second)).2 =
      (cached.askAll first).2 ++ ((cached.after first).askAll second).2 := by
  induction first generalizing cached with
  | nil => rfl
  | cons question first ih => simp only [List.cons_append, askAll, after, ih, List.append_assoc]

/-- What is known after some questions is not missed again by later ones. -/
theorem missing_append (first second : List Accounts.Question) :
    cached.missing (first ++ second) =
      cached.missing first ++ (cached.after first).missing second := by
  rw [missing, asked_append, List.filter_append, missing, missing, accounts_after]

theorem missing_fresh (accounts : Accounts) (questions : List Accounts.Question) :
    (fresh accounts).missing questions =
      ((questions.map Accounts.Question.target).eraseDups).filter fun target =>
        (accounts.table target.1 target.2).isNone := by
  rw [missing, asked_askAll]
  simp only [knows_fresh, Bool.not_false, List.filter_true]
  rfl

theorem mem_missing_fresh_iff {accounts : Accounts} {questions : List Accounts.Question}
    {target : AccountTable × UInt32} :
    target ∈ (fresh accounts).missing questions ↔
      target ∈ questions.map Accounts.Question.target ∧
        accounts.table target.1 target.2 = none := by
  rw [missing_fresh, List.mem_filter, List.mem_eraseDups, Option.isNone_iff_eq_none]

theorem nodup_missing_fresh (accounts : Accounts) (questions : List Accounts.Question) :
    ((fresh accounts).missing questions).Nodup := by
  rw [missing_fresh]
  exact (nodup_eraseDups _).filter _

end CachedAccounts

theorem Accounts.answer_congr {accounts accounts' : Accounts} {question : Question}
    (same : accounts.table question.target.1 = accounts'.table question.target.1) :
    accounts.answer question = accounts'.answer question := by
  cases question with
  | userName id => exact congrFun same id
  | groupName id => exact congrFun same id
  | ownerOf id => exact congrArg (fun name => some (nameOrNumber name id)) (congrFun same id)
  | groupOf id => exact congrArg (fun name => some (nameOrNumber name id)) (congrFun same id)

namespace CachedAccounts

variable {ω : Type}

/-- The answers to the calls of several workers, in the order in which the calls happen, and what
the databases are asked. -/
def serve (accounts : Accounts) (calls : List (ω × Accounts.Question)) :
    List (Option String) × List (AccountTable × UInt32) :=
  (fresh accounts).askAll (calls.map Prod.snd)

/-- The answers that some of the calls get. -/
def answersTo (accounts : Accounts) (calls : List (ω × Accounts.Question))
    (selected : ω × Accounts.Question → Bool) : List (Option String) :=
  ((calls.zip (serve accounts calls).1).filter fun answered => selected answered.1).map Prod.snd

/-- The caches make no difference to what is answered, and save the databases questions. -/
structure Invisible [DecidableEq ω] (accounts : Accounts)
    (calls : List (ω × Accounts.Question)) : Prop where
  answers : (serve accounts calls).1 = calls.map fun call => accounts.answer call.2
  /-- A worker gets the answers to its own questions, whatever others ask between them. -/
  worker : ∀ worker, answersTo accounts calls (fun call => call.1 = worker) =
    (calls.filter fun call => call.1 = worker).map fun call => accounts.answer call.2
  /-- A database is asked about everything that a question about it names, and only once. -/
  asked_nodup : (serve accounts calls).2.Nodup
  mem_asked_iff : ∀ target, target ∈ (serve accounts calls).2 ↔
    ∃ call ∈ calls, call.2.target = target
  /-- What is answered from one database and what it is asked does not depend on the other database
  and on the questions about it. -/
  apart : ∀ (table : AccountTable) (accounts' : Accounts) (calls' : List (ω × Accounts.Question)),
    accounts.table table = accounts'.table table →
    (calls.filter fun call => call.2.target.1 = table) =
      (calls'.filter fun call => call.2.target.1 = table) →
    answersTo accounts calls (fun call => call.2.target.1 = table) =
        answersTo accounts' calls' (fun call => call.2.target.1 = table) ∧
      ((serve accounts calls).2.filter fun target => target.1 = table) =
        (serve accounts' calls').2.filter fun target => target.1 = table

theorem answers_serve (accounts : Accounts) (calls : List (ω × Accounts.Question)) :
    (serve accounts calls).1 = calls.map fun call => accounts.answer call.2 := by
  rw [serve, answers_askAll (sound_fresh accounts), List.map_map]
  rfl

theorem answersTo_eq (accounts : Accounts) (calls : List (ω × Accounts.Question))
    (selected : ω × Accounts.Question → Bool) :
    answersTo accounts calls selected =
      (calls.filter selected).map fun call => accounts.answer call.2 := by
  rw [answersTo, answers_serve]
  induction calls with
  | nil => rfl
  | cons call calls ih =>
      simp only [List.map_cons, List.zip_cons_cons, List.filter_cons]
      split
      · simp only [List.map_cons, ih]
      · exact ih

theorem asked_serve (accounts : Accounts) (calls : List (ω × Accounts.Question)) :
    (serve accounts calls).2 = (calls.map fun call => call.2.target).eraseDups := by
  rw [serve, asked_askAll]
  simp [knows_fresh, Function.comp_def]

/-- Whatever several workers ask cached accounts and in whatever order, each gets the answers that
the databases give, and these are asked as little as possible. -/
theorem invisible [DecidableEq ω] (accounts : Accounts) (calls : List (ω × Accounts.Question)) :
    Invisible accounts calls where
  answers := answers_serve accounts calls
  worker worker := answersTo_eq accounts calls fun call => call.1 = worker
  asked_nodup := by
    rw [asked_serve]
    exact nodup_eraseDups _
  mem_asked_iff := by
    intro target
    rw [asked_serve, List.mem_eraseDups, List.mem_map]
  apart := by
    intro table accounts' calls' sameTable sameCalls
    constructor
    · rw [answersTo_eq, answersTo_eq, ← sameCalls]
      apply List.map_congr_left
      intro call member
      have about : call.2.target.1 = table := of_decide_eq_true (List.mem_filter.1 member).2
      apply Accounts.answer_congr
      rw [about]
      exact sameTable
    · have targets := congrArg (List.map fun call => call.2.target) sameCalls
      simp only [asked_serve, filter_eraseDups, List.filter_map, Function.comp_def, targets]

/-- A number without a name is looked up once in each database. -/
example : serve ⟨fun _ => none, fun _ => none⟩
    [("first", .ownerOf 7), ("second", .userName 7), ("first", .groupOf 7)] =
      ([some "7", none, some "7"], [(.users, 7), (.groups, 7)]) := by
  cbv

end CachedAccounts

end FileQuery
