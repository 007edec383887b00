import EntityStore.Proofs.ContextStates

/-!
# Whose rows they are

Objects are saved one by one, each call applied at once, whether it is accepted or
not, and the objects may be mended in between.  A row that comes into being on the way
is the work of one object, the one whose save added it.  It holds what the last
accepted save of this object wrote, and no save of another object changes it, with one
exception (`Session.Fresh.rows_keep_to_authors`).

The exception is an object that got its key from a save that was refused.  The key
stays with it, although the row under the key may be another's by then, or become so.
The next save of the object sees that row, takes it for its own and replaces it
(`Session.finance_retry_replaces`).

What one save can do is said once, in terms of the keys of the objects and the rows
that are stored (`Session.Saves`).  All else goes by the history of the calls, which is
listed latest first.
-/

set_option autoImplicit false

namespace EntityStore

/-! ## What a draft does to the stored rows -/

namespace Tables

variable {tables later : Tables} {next : Write} {step : Undo}

theorem Performs.table_exists (performed : tables.Performs next later step) :
    ∃ table, tables.get? next.table = some table := by
  cases performed with
  | insert found | update found | delete found => exact ⟨_, found⟩

/-- A row is inserted where there is none. -/
theorem Performs.row?_eq_none {name key : String} {row : Row}
    (performed : tables.Performs (.insert name row) later step) (first : tables.KeyFirst name)
    (named : row[0]? = some (.text key)) : tables.row? name key = none := by
  cases performed with
  | insert found _ admits missing =>
      have keyed := admits.keyed
      rw [first found, named] at keyed
      cases keyed
      rw [row?, found, Option.bind_some, missing]

end Tables

namespace WorkUnit

variable {σ ε : Type} {registry : Registry} {work : WorkUnit σ} {kind : EntityType ε} {entity : ε}
  {draft : Draft ε}

/-- A draft that is carried out puts the row of the entity under its key and changes no other. -/
theorem Drafts.row?_eq (drafts : work.Drafts kind entity draft) (keyed : kind.Keyed)
    {tables later : Tables} {step : Undo} (first : tables.KeyFirst kind.mapping.table)
    (performed : tables.Performs draft.next later step) (name key : String) :
    later.row? name key =
      if name = kind.mapping.table ∧ key = draft.key then some (kind.toRow draft.entity)
      else tables.row? name key := by
  cases found : tables.get? name with
  | none =>
      have missing := performed.schema?_eq name
      rw [Tables.schema?, Tables.schema?, found, Option.map_none, Option.map_eq_none_iff] at missing
      rw [if_neg, Tables.row?, Tables.row?, found, missing]
      rintro ⟨rfl, -⟩
      obtain ⟨table, tableFound⟩ := performed.table_exists
      rw [drafts.table_eq] at tableFound
      cases found.symm.trans tableFound
  | some table =>
      obtain ⟨kept, keptFound, -, rows⟩ := performed.rows_eq found
      rw [Tables.row?, Tables.row?, found, keptFound, Option.bind_some, Option.bind_some,
        Table.get?, Table.get?, rows, drafts.table_eq]
      by_cases same : kind.mapping.table = name
      · subst same
        rw [if_pos rfl, first found, drafts.overlayRows_eq keyed, KeyMap.get?_insert]
        exact if_congr (by simp) rfl rfl
      · rw [if_neg same, if_neg fun both => same both.1.symm]

namespace Opened

theorem evolve (opened : work.Opened registry) {database : Database}
    (evolves : work.database.Evolves database) (issuer : KeyIssuer) (medium : σ) :
    { work with database, issuer, medium }.Opened registry where
  toServes := opened.toServes.step rfl evolves opened.issued
  outside := opened.outside

/-- Outside a transaction a write is carried out at once, or it changes nothing. -/
theorem execute_ends (opened : work.Opened registry) (saver : Saver σ) (next : Write)
    (issuer : KeyIssuer) :
    let result := { work with issuer }.execute saver next
    result.2.Opened registry ∧
      ((∃ fault, result.1 = .error fault ∧ result.2.database = work.database) ∨
        result.1 = .ok () ∧
          ∃ step, work.database.tables.Performs next result.2.database.tables step) := by
  cases phase : work.connection.phase with
  | closed =>
      simp only [execute, Connection.execute, phase]
      exact ⟨opened.evolve .refl issuer work.medium, .inl ⟨_, rfl, trivial⟩⟩
  | active =>
      simp only [execute, Connection.execute, phase]
      refine ⟨opened.evolve (.single (.apply saver [next] work.medium)) issuer _, ?_⟩
      rw [Database.apply_one opened.reachable.wellFormed]
      cases written : work.database.tables.write next with
      | error fault => exact .inl ⟨fault, rfl, rfl⟩
      | ok result =>
          obtain ⟨tables, step⟩ := result
          dsimp only
          cases saver tables work.medium with
          | error fault => exact .inl ⟨fault, rfl, rfl⟩
          | ok medium => exact .inr ⟨rfl, step, Tables.write_eq_ok_iff.mp written⟩
  | inTransaction =>
      have outside := opened.outside
      rw [Connection.isInTransaction, phase] at outside
      cases outside

end Opened

end WorkUnit

/-! ## One save -/

namespace AnyEntity

/-- The key of an entity, if it has one. -/
def id? (subject : AnyEntity) : Option String := subject.kind.id? subject.entity

/-- Another entity of the same type. -/
def become (subject : AnyEntity) (entity : subject.shape) : AnyEntity := ⟨subject.kind, entity⟩

end AnyEntity

namespace Session

variable {σ : Type} {registry : Registry} {session later : Session σ} {saver : Saver σ}
  {name : String}

/-- The key of an object, if it has one. -/
def id? (session : Session σ) (name : String) : Option String := (session.entities name).id?

/-- The table of an object. -/
def tableOf (session : Session σ) (name : String) : String :=
  (session.entities name).kind.mapping.table

/-- The row of an object. -/
def rowOf (session : Session σ) (name : String) : Row :=
  (session.entities name).kind.toRow (session.entities name).entity

/-- The row that is stored under a key of a table. -/
def stored? (session : Session σ) (table key : String) : Option Row :=
  session.work.database.tables.row? table key

/-- The session with one object in another state, and with other tables to work on. -/
def withEntity (session : Session σ) (name : String) (entity : (session.entities name).shape)
    (work : WorkUnit σ) : Session σ :=
  ⟨Function.update session.entities name ((session.entities name).become entity), work⟩

section WithEntity

variable (session) (name) (entity : (session.entities name).shape) (work : WorkUnit σ)

theorem entities_withEntity :
    (session.withEntity name entity work).entities name = (session.entities name).become entity :=
  Function.update_self ..

theorem id?_withEntity :
    (session.withEntity name entity work).id? name = (session.entities name).kind.id? entity := by
  rw [id?, entities_withEntity]
  rfl

theorem rowOf_withEntity :
    (session.withEntity name entity work).rowOf name =
      (session.entities name).kind.toRow entity := by
  rw [rowOf, entities_withEntity]
  rfl

end WithEntity

/-- Whether objects are the same but for the state of one of them. -/
structure SameBut (session later : Session σ) (name : String) : Prop where
  own : ∃ entity, later.entities name = (session.entities name).become entity
  others : ∀ other, other ≠ name → later.entities other = session.entities other

theorem sameBut_withEntity (entity : (session.entities name).shape) (work : WorkUnit σ) :
    session.SameBut (session.withEntity name entity work) name where
  own := ⟨entity, session.entities_withEntity name entity work⟩
  others _ different := Function.update_of_ne different _ _

/-- What a save of an object does. -/
structure Saves (session : Session σ) (name : String) (answer : Except Fault Unit)
    (later : Session σ) : Prop where
  sameBut : session.SameBut later name
  keeps : ∀ key, session.id? name = some key → later.id? name = some key
  ends : (answer ≠ .ok () ∧ ∀ table key, later.stored? table key = session.stored? table key) ∨
    answer = .ok () ∧ ∃ key, later.id? name = some key ∧
      (session.id? name = none → session.stored? (session.tableOf name) key = none) ∧
      ∀ table other, later.stored? table other =
        if table = session.tableOf name ∧ other = key then some (later.rowOf name)
        else session.stored? table other

/-- **What a save can do.**  It leaves the other objects alone and keeps the key of its own.  When
it is refused the rows are as before; else the row of the object stands under its key, where there
was none if the object is new, and the others are as before. -/
theorem perform_saves (opened : session.work.Opened registry)
    (keyed : (session.entities name).kind.Keyed) (saver : Saver σ) :
    let result := session.perform saver (.save name)
    result.2.work.Opened registry ∧ session.Saves name result.1 result.2 := by
  have performed : session.perform saver (.save name) =
      let saved := session.work.save saver (session.entities name).kind
        (session.entities name).entity
      (saved.1.1, session.withEntity name saved.1.2 saved.2) := rfl
  rw [performed]
  obtain ⟨fault, refused⟩ | ⟨draft, drafts, known, saved⟩ := WorkUnit.save_cases saver
    (session.entities name).kind (session.entities name).entity session.work
  · rw [refused]
    refine ⟨opened, sameBut_withEntity _ _, fun key known => ?_, .inl ⟨nofun, fun _ _ => rfl⟩⟩
    exact (session.id?_withEntity name _ _).trans known
  · obtain ⟨later, ends⟩ := opened.execute_ends saver draft.next draft.issuer
    rw [saved]
    generalize { session.work with issuer := draft.issuer }.execute saver draft.next = written
      at later ends
    obtain ⟨answer, work⟩ := written
    have given := (session.id?_withEntity name draft.entity work).trans (drafts.id?_eq keyed)
    refine ⟨later, sameBut_withEntity _ _, fun key known => ?_, ?_⟩
    · rw [← drafts.key_eq known]
      exact given
    · rcases ends with ⟨fault, answered, same⟩ | ⟨answered, step, carriedOut⟩
      · refine .inl ⟨fun accepted => (nomatch answered.symm.trans accepted), fun table key => ?_⟩
        exact congrArg (fun database : Database => database.tables.row? table key) same
      · have first := opened.toServes.keyFirst known
        refine .inr ⟨answered, draft.key, given, fun unsaved => ?_, fun table other => ?_⟩
        · cases drafts with
          | fresh => exact carriedOut.row?_eq_none first (keyed.keyFirst (keyed.id?_withId _ _))
          | stored known | absent known => exact nomatch unsaved.symm.trans known
        · rw [rowOf_withEntity]
          exact drafts.row?_eq keyed first carriedOut table other

end Session

/-! ## Histories of calls -/

/-- Whether a call saves an object, or mends objects and leaves their types and keys alone. -/
def Call.Mends : Call → Prop
  | .save _ => True
  | .delete _ => False
  | .change edit => ∀ (entities : Entities) (name : String),
      (∃ entity, edit entities name = (entities name).become entity) ∧
        (edit entities name).id? = (entities name).id?

/-- Whether a call is a save of an object. -/
def Call.isSaveOf (name : String) : Call → Bool
  | .save saved => saved = name
  | .delete _ | .change _ => false

namespace Session

variable {σ : Type} {registry : Registry} {session later : Session σ} {saver : Saver σ}
  {history : List Call} {call : Call} {name owner other table key : String}

section Histories

variable (saver : Saver σ) (session : Session σ)

/-- The session after calls, latest first, whether they were accepted or not. -/
def after : List Call → Session σ
  | [] => session
  | call :: before => ((after before).perform saver call).2

/-- Whether a call is a save of an object that adds the row under a key of a table. -/
def Adds (call : Call) (name table key : String) : Prop :=
  call = .save name ∧ session.stored? table key = none ∧
    ∃ row, (session.perform saver call).2.stored? table key = some row

/-- Whether a call is a save of an object that gives it a key of its table and is refused. -/
def GivesInVain (call : Call) (name table key : String) : Prop :=
  call = .save name ∧ session.tableOf name = table ∧ session.id? name = none ∧
    (session.perform saver call).1 ≠ .ok () ∧
    (session.perform saver call).2.id? name = some key

/-- Whether one of the calls was a save of an object that added the row under a key of a table. -/
def Authors (name table key : String) : List Call → Prop
  | [] => False
  | call :: before =>
      (session.after saver before).Adds saver call name table key ∨ Authors name table key before

/-- Whether one of the calls was a save of an object that gave it a key of its table and was
refused. -/
def KeyedInVain (name table key : String) : List Call → Prop
  | [] => False
  | call :: before =>
      (session.after saver before).GivesInVain saver call name table key ∨
        KeyedInVain name table key before

/-- The row that the last accepted save of an object wrote. -/
def lastSaved? (name : String) : List Call → Option Row
  | [] => none
  | call :: before =>
      let result := (session.after saver before).perform saver call
      if call.isSaveOf name && result.1.isOk then some (result.2.rowOf name)
      else lastSaved? name before

end Histories

/-- Whether nothing was saved yet: a context outside a transaction, and objects that take the keys
they are given but have none. -/
structure Fresh (registry : Registry) (session : Session σ) : Prop where
  opened : session.work.Opened registry
  keyed : ∀ name, (session.entities name).kind.Keyed
  unsaved : ∀ name, session.id? name = none

/-! ## One call -/

/-- What every mending call keeps: the types of the objects, the keys they have, and the rows that
there are, if not what they hold. -/
structure Keeps (session later : Session σ) : Prop where
  types : ∀ name, ∃ entity, later.entities name = (session.entities name).become entity
  keys : ∀ name key, session.id? name = some key → later.id? name = some key
  rows : ∀ table key row, session.stored? table key = some row →
    ∃ kept, later.stored? table key = some kept

theorem Keeps.tableOf_eq (keeps : session.Keeps later) (name : String) :
    later.tableOf name = session.tableOf name := by
  obtain ⟨entity, same⟩ := keeps.types name
  rw [tableOf, tableOf, same]
  rfl

theorem Keeps.keyed (keeps : session.Keeps later)
    (keyed : ∀ name, (session.entities name).kind.Keyed) (name : String) :
    (later.entities name).kind.Keyed := by
  obtain ⟨entity, same⟩ := keeps.types name
  rw [same]
  exact keyed name

theorem SameBut.id?_eq (sameBut : session.SameBut later name) (different : other ≠ name) :
    later.id? other = session.id? other := by
  rw [id?, id?, sameBut.others other different]

theorem Saves.keeps_all {answer : Except Fault Unit} (saves : session.Saves name answer later) :
    session.Keeps later where
  types other := by
    by_cases same : other = name
    · subst same
      exact saves.sameBut.own
    · exact ⟨(session.entities other).entity, saves.sameBut.others other same⟩
  keys other key known := by
    by_cases same : other = name
    · subst same
      exact saves.keeps key known
    · rw [saves.sameBut.id?_eq same, known]
  rows table key row stored := by
    rcases saves.ends with ⟨-, unchanged⟩ | ⟨-, own, -, -, written⟩
    · exact ⟨row, (unchanged table key).trans stored⟩
    · rw [written]
      split
      · exact ⟨_, rfl⟩
      · exact ⟨row, stored⟩

/-- A row that a save changes is that of its object. -/
theorem Saves.stored?_cases {answer : Except Fault Unit} (saves : session.Saves name answer later)
    (table key : String) :
    later.stored? table key = session.stored? table key ∨
      answer = .ok () ∧ later.id? name = some key ∧ later.tableOf name = table ∧
        later.stored? table key = some (later.rowOf name) ∧
        (session.id? name = none → session.stored? table key = none) := by
  rcases saves.ends with ⟨-, unchanged⟩ | ⟨accepted, own, given, free, written⟩
  · exact .inl (unchanged table key)
  · by_cases here : table = session.tableOf name ∧ key = own
    · obtain ⟨rfl, rfl⟩ := here
      exact .inr ⟨accepted, given, saves.keeps_all.tableOf_eq name,
        (written _ key).trans (if_pos ⟨rfl, rfl⟩), free⟩
    · exact .inl ((written table key).trans (if_neg here))

theorem change_keeps {edit : Entities → Entities} (mends : Call.Mends (.change edit)) :
    let later := (session.perform saver (.change edit)).2
    session.Keeps later ∧ ∀ name, later.id? name = session.id? name := by
  have ids (name : String) := (mends session.entities name).2
  exact ⟨⟨fun name => (mends session.entities name).1, fun name key known => (ids name).trans known,
    fun table key row stored => ⟨row, stored⟩⟩, ids⟩

/-- What is true after a history of mending calls: a key of an object was given to it by the save
that added its row, or by one that was refused, and who added a row has the key of it. -/
structure Traced (registry : Registry) (saver : Saver σ) (session : Session σ)
    (history : List Call) : Prop where
  opened : (session.after saver history).work.Opened registry
  keyed : ∀ name, ((session.after saver history).entities name).kind.Keyed
  origin : ∀ name key, (session.after saver history).id? name = some key →
    session.KeyedInVain saver name ((session.after saver history).tableOf name) key history ∨
      session.Authors saver name ((session.after saver history).tableOf name) key history
  authored : ∀ name table key, session.Authors saver name table key history →
    (session.after saver history).id? name = some key ∧
      (session.after saver history).tableOf name = table ∧
      ∃ row, (session.after saver history).stored? table key = some row

namespace Traced

/-- What an object has authored stays with it and stays there. -/
theorem authored_kept (traced : session.Traced registry saver history)
    (keeps : (session.after saver history).Keeps later)
    (authors : session.Authors saver name table key history) :
    later.id? name = some key ∧ later.tableOf name = table ∧
      ∃ row, later.stored? table key = some row := by
  obtain ⟨known, same, row, stored⟩ := traced.authored name table key authors
  exact ⟨keeps.keys name key known, (keeps.tableOf_eq name).trans same,
    keeps.rows table key row stored⟩

theorem origin_kept (traced : session.Traced registry saver history)
    (keeps : (session.after saver history).Keeps later)
    (known : (session.after saver history).id? name = some key) (call : Call) :
    session.KeyedInVain saver name (later.tableOf name) key (call :: history) ∨
      session.Authors saver name (later.tableOf name) key (call :: history) := by
  rw [keeps.tableOf_eq]
  exact (traced.origin name key known).imp .inr .inr

/-- A key that an object gets by a save is that of a row it added, or it got it in vain. -/
theorem gained (traced : session.Traced registry saver history) {saved : String}
    (unsaved : (session.after saver history).id? name = none)
    (known : (session.after saver (.save saved :: history)).id? name = some key) :
    let table := (session.after saver (.save saved :: history)).tableOf name
    session.KeyedInVain saver name table key (.save saved :: history) ∨
      session.Authors saver name table key (.save saved :: history) := by
  obtain ⟨-, saves⟩ := perform_saves traced.opened (traced.keyed saved) saver
  have same : name = saved := by
    by_contra different
    exact nomatch (known.symm.trans (saves.sameBut.id?_eq different)).trans unsaved
  subst same
  have sameTable := saves.keeps_all.tableOf_eq name
  rcases saves.ends with ⟨refused, -⟩ | ⟨-, own, given, free, written⟩
  · exact .inl (.inl ⟨rfl, sameTable.symm, unsaved, refused, known⟩)
  · cases given.symm.trans known
    have missing := free unsaved
    rw [← sameTable] at missing
    exact .inr (.inl ⟨rfl, missing, _, (written _ key).trans (if_pos ⟨sameTable, rfl⟩)⟩)

/-- An object that adds a row has the key of it. -/
theorem added (traced : session.Traced registry saver history)
    (adds : (session.after saver history).Adds saver call name table key) :
    (session.after saver (call :: history)).id? name = some key ∧
      (session.after saver (call :: history)).tableOf name = table ∧
      ∃ row, (session.after saver (call :: history)).stored? table key = some row := by
  obtain ⟨rfl, missing, row, stored⟩ := adds
  obtain ⟨-, saves⟩ := perform_saves traced.opened (traced.keyed name) saver
  rcases saves.stored?_cases table key with unchanged | ⟨-, given, own, -, -⟩
  · exact nomatch stored.symm.trans (unchanged.trans missing)
  · exact ⟨given, own, row, stored⟩

/-- **Saves and mending keep track.** -/
theorem step (traced : session.Traced registry saver history) (mends : call.Mends) :
    session.Traced registry saver (call :: history) := by
  cases call with
  | delete => exact mends.elim
  | change edit =>
      obtain ⟨keeps, ids⟩ := change_keeps mends
      refine ⟨traced.opened, keeps.keyed traced.keyed, fun name key known => ?_,
        fun name table key authors => ?_⟩
      · exact traced.origin_kept keeps ((ids name).symm.trans known) (.change edit)
      · exact authors.elim traced.added (traced.authored_kept keeps)
  | save saved =>
      obtain ⟨opened, saves⟩ := perform_saves traced.opened (traced.keyed saved) saver
      have keeps := saves.keeps_all
      refine ⟨opened, keeps.keyed traced.keyed, fun name key known => ?_,
        fun name table key authors => ?_⟩
      · cases earlier : (session.after saver history).id? name with
        | none => exact traced.gained earlier known
        | some old =>
            cases (keeps.keys name old earlier).symm.trans known
            exact traced.origin_kept keeps earlier (.save saved)
      · exact authors.elim traced.added (traced.authored_kept keeps)

end Traced

/-- **A history of mending calls is tracked from the start.** -/
theorem Fresh.traced (fresh : session.Fresh registry) (saver : Saver σ)
    (mends : ∀ call ∈ history, call.Mends) : session.Traced registry saver history := by
  induction history with
  | nil =>
      refine ⟨fresh.opened, fresh.keyed, fun name key known => ?_,
        fun _ _ _ authors => authors.elim⟩
      exact nomatch (fresh.unsaved name).symm.trans known
  | cons call before ih =>
      obtain ⟨last, others⟩ := List.forall_mem_cons.mp mends
      exact (ih others).step last

/-! ## Whose rows they are -/

/-- A row has one author. -/
theorem Fresh.author_unique (fresh : session.Fresh registry) (mends : ∀ call ∈ history, call.Mends)
    (first : session.Authors saver owner table key history)
    (second : session.Authors saver other table key history) : owner = other := by
  induction history with
  | nil => exact first.elim
  | cons call before ih =>
      obtain ⟨-, earlier⟩ := List.forall_mem_cons.mp mends
      have present {name : String} (authors : session.Authors saver name table key before) :
          (session.after saver before).stored? table key ≠ none := by
        obtain ⟨-, -, row, stored⟩ := (fresh.traced saver earlier).authored name table key authors
        exact fun missing => nomatch missing.symm.trans stored
      rcases first with ⟨firstSave, missing, -⟩ | firstAuthors
      · rcases second with ⟨secondSave, -, -⟩ | secondAuthors
        · exact Call.save.inj (firstSave.symm.trans secondSave)
        · exact absurd missing (present secondAuthors)
      · rcases second with ⟨-, missing, -⟩ | secondAuthors
        · exact absurd missing (present firstAuthors)
        · exact ih earlier firstAuthors secondAuthors

/-- A row that was not there at first has an author. -/
theorem exists_author (mends : ∀ call ∈ history, call.Mends)
    (missing : session.stored? table key = none) {row : Row}
    (stored : (session.after saver history).stored? table key = some row) :
    ∃ owner, session.Authors saver owner table key history := by
  induction history generalizing row with
  | nil => exact nomatch missing.symm.trans stored
  | cons call before ih =>
      obtain ⟨last, earlier⟩ := List.forall_mem_cons.mp mends
      cases present : (session.after saver before).stored? table key with
      | some old => exact (ih earlier present).imp fun owner authors => .inr authors
      | none =>
          cases call with
          | delete => exact last.elim
          | change edit => exact nomatch present.symm.trans stored
          | save saved => exact ⟨saved, .inl ⟨rfl, present, row, stored⟩⟩

/-- **A save of another object spares the row, unless the object was given the key in vain.** -/
theorem Fresh.save_spares (fresh : session.Fresh registry) (mends : ∀ call ∈ history, call.Mends)
    (authors : session.Authors saver owner table key history) (different : other ≠ owner) :
    ((session.after saver history).perform saver (.save other)).2.stored? table key =
        (session.after saver history).stored? table key ∨
      session.KeyedInVain saver other table key history := by
  have traced := fresh.traced saver mends
  obtain ⟨-, saves⟩ := perform_saves traced.opened (traced.keyed other) saver
  rcases saves.stored?_cases table key with unchanged | ⟨-, given, own, -, free⟩
  · exact .inl unchanged
  · cases earlier : (session.after saver history).id? other with
    | none =>
        -- A new object only gets a row where there is none, but this one is there.
        obtain ⟨-, -, row, stored⟩ := traced.authored owner table key authors
        exact nomatch stored.symm.trans (free earlier)
    | some old =>
        cases (saves.keeps old earlier).symm.trans given
        have origin := traced.origin other key earlier
        rw [← saves.keeps_all.tableOf_eq, own] at origin
        exact .inr (origin.resolve_right fun otherAuthors =>
          different (fresh.author_unique mends otherAuthors authors))

section LastSaved

variable {before : List Call}

theorem lastSaved?_of_accepted
    (accepted : ((session.after saver before).perform saver (.save name)).1 = .ok ()) :
    session.lastSaved? saver name (.save name :: before) =
      some ((session.after saver (.save name :: before)).rowOf name) := by
  have both : (Call.save name).isSaveOf name &&
      ((session.after saver before).perform saver (.save name)).1.isOk := by
    rw [accepted, Call.isSaveOf, decide_eq_true rfl]
    rfl
  rw [lastSaved?, if_pos both]
  rfl

theorem lastSaved?_of_refused
    (refused : ((session.after saver before).perform saver call).1 ≠ .ok ()) :
    session.lastSaved? saver name (call :: before) = session.lastSaved? saver name before := by
  have notOk : ((session.after saver before).perform saver call).1.isOk = false := by
    cases answered : ((session.after saver before).perform saver call).1 with
    | ok => exact absurd answered refused
    | error fault => rfl
  rw [lastSaved?, notOk, Bool.and_false, if_neg Bool.false_ne_true]

theorem lastSaved?_of_not_isSaveOf (skip : call.isSaveOf name = false) :
    session.lastSaved? saver name (call :: before) = session.lastSaved? saver name before := by
  rw [lastSaved?, skip, Bool.false_and, if_neg Bool.false_ne_true]

end LastSaved

/-- An added row is what its author saved last. -/
theorem Traced.stored?_added (traced : session.Traced registry saver history)
    (adds : (session.after saver history).Adds saver call owner table key) :
    (session.after saver (call :: history)).stored? table key =
      session.lastSaved? saver owner (call :: history) := by
  obtain ⟨rfl, missing, row, stored⟩ := adds
  obtain ⟨-, saves⟩ := perform_saves traced.opened (traced.keyed owner) saver
  rcases saves.stored?_cases table key with unchanged | ⟨accepted, -, -, written, -⟩
  · exact nomatch stored.symm.trans (unchanged.trans missing)
  · exact written.trans (lastSaved?_of_accepted accepted).symm

/-- A row remains what its author saved last when the author is saved again. -/
theorem Traced.stored?_savedAgain (traced : session.Traced registry saver history)
    (authors : session.Authors saver owner table key history)
    (same : (session.after saver history).stored? table key =
      session.lastSaved? saver owner history) :
    (session.after saver (.save owner :: history)).stored? table key =
      session.lastSaved? saver owner (.save owner :: history) := by
  obtain ⟨-, saves⟩ := perform_saves traced.opened (traced.keyed owner) saver
  rcases saves.ends with ⟨refused, unchanged⟩ | ⟨accepted, own, given, -, written⟩
  · exact (unchanged table key).trans (same.trans (lastSaved?_of_refused refused).symm)
  · obtain ⟨known, ownTable, -⟩ := traced.authored owner table key authors
    cases (saves.keeps key known).symm.trans given
    have replaced := (written table key).trans (if_pos ⟨ownTable.symm, rfl⟩)
    exact replaced.trans (lastSaved?_of_accepted accepted).symm

/-- **A row holds what the last accepted save of its author wrote, unless some other object was
given its key in vain.** -/
theorem Fresh.stored?_eq_lastSaved? (fresh : session.Fresh registry)
    (mends : ∀ call ∈ history, call.Mends)
    (authors : session.Authors saver owner table key history) :
    (session.after saver history).stored? table key = session.lastSaved? saver owner history ∨
      ∃ other, other ≠ owner ∧ session.KeyedInVain saver other table key history := by
  induction history with
  | nil => exact authors.elim
  | cons call before ih =>
      obtain ⟨last, earlier⟩ := List.forall_mem_cons.mp mends
      have traced := fresh.traced saver earlier
      rcases authors with adds | authors
      · exact .inl (traced.stored?_added adds)
      · rcases ih earlier authors with same | ⟨other, different, vain⟩
        · cases call with
          | delete => exact last.elim
          | change edit => exact .inl (same.trans (lastSaved?_of_not_isSaveOf rfl).symm)
          | save saved =>
              by_cases own : saved = owner
              · subst own
                exact .inl (traced.stored?_savedAgain authors same)
              · have skip : (Call.save saved).isSaveOf owner = false := decide_eq_false own
                rcases fresh.save_spares earlier authors own with spared | vain
                · exact .inl (spared.trans (same.trans (lastSaved?_of_not_isSaveOf skip).symm))
                · exact .inr ⟨saved, own, .inr vain⟩
        · exact .inr ⟨other, different, .inr vain⟩

/-- **Rows keep to the objects that added them.**  Objects that had no keys at first are saved in
any order and any number of times, with any keys, over the tables that a registry made, and are
mended in between.  A row that has come to be there then has one object as its author.  It holds
what the last accepted save of the author wrote, unless another object of the table was given its
key by a save that was refused; and no save of another object changes it, unless that object was. -/
theorem Fresh.rows_keep_to_authors (fresh : session.Fresh registry) (saver : Saver σ)
    (mends : ∀ call ∈ history, call.Mends) (missing : session.stored? table key = none) {row : Row}
    (stored : (session.after saver history).stored? table key = some row) :
    ∃ owner, session.Authors saver owner table key history ∧
      (∀ other, session.Authors saver other table key history → other = owner) ∧
      (some row = session.lastSaved? saver owner history ∨
        ∃ other, other ≠ owner ∧ session.KeyedInVain saver other table key history) ∧
      ∀ other, other ≠ owner →
        ((session.after saver history).perform saver (.save other)).2.stored? table key =
            some row ∨
          session.KeyedInVain saver other table key history := by
  obtain ⟨owner, authors⟩ := exists_author mends missing stored
  refine ⟨owner, authors, fun other others => fresh.author_unique mends others authors, ?_, ?_⟩
  · rw [← stored]
    exact fresh.stored?_eq_lastSaved? mends authors
  · intro other different
    rw [← stored]
    exact fresh.save_spares mends authors different

end Session

/-! ## Two domains with one key -/

namespace Finance

open Model

theorem session_entities (name : String) :
    session.entities name =
        ⟨Domain.entityType, { name := "Finance", rgbColor := "00ff00", mnemonic := "FIN" }⟩ ∨
      session.entities name = ⟨Class.entityType, { name := "Account", domain := ⟨"d"⟩ }⟩ := by
  by_cases same : name = "domain"
  · exact .inl (if_pos same)
  · exact .inr (if_neg same)

theorem session_fresh : session.Fresh registry where
  opened := session_opened
  keyed name := by
    rcases session_entities name with same | same
    · exact same ▸ Domain.faithful.toKeyed
    · exact same ▸ Class.faithful.toKeyed
  unsaved name := by
    rcases session_entities name with same | same
    · rw [Session.id?, same]
      rfl
    · rw [Session.id?, same]
      rfl

/-- A session with two domains, for which the same key is issued twice. -/
def twins : Session FileTree where
  entities name :=
    ⟨Domain.entityType,
      if name = "finance" then { name := "Finance", rgbColor := "00ff00", mnemonic := "FIN" }
      else { name := "Sales", rgbColor := "ff0000", mnemonic := "SAL" }⟩
  work := { session.work with issuer := .listed registry.strategy ["k", "k"] "none" }

theorem twins_fresh : twins.Fresh registry where
  opened := session_opened.evolve .refl _ _
  keyed _ := Domain.faithful.toKeyed
  unsaved name := by
    by_cases same : name = "finance"
    · simp only [Session.id?, twins, if_pos same]
      rfl
    · simp only [Session.id?, twins, if_neg same]
      rfl

end Finance

namespace Session

/-- The domain stays as it is when its class is saved once more. -/
theorem finance_rows_keep_to_authors :
    ((Finance.session.after Finance.saver [.save "class", .save "domain"]).perform Finance.saver
        (.save "class")).2.stored? "vra_domain" "d" =
      some [.text "d", .text "Finance", .text "00ff00", .text "FIN"] := by
  have mends : ∀ call ∈ [Call.save "class", Call.save "domain"], call.Mends := by
    simp [Call.Mends]
  have stored : (Finance.session.after Finance.saver [.save "class", .save "domain"]).stored?
      "vra_domain" "d" = some [.text "d", .text "Finance", .text "00ff00", .text "FIN"] := rfl
  obtain ⟨owner, -, unique, -, spares⟩ :=
    Finance.session_fresh.rows_keep_to_authors Finance.saver mends rfl stored
  cases unique "domain" (.inr (.inl ⟨rfl, rfl, _, rfl⟩))
  refine (spares "class" (by decide)).resolve_right ?_
  rintro (⟨-, -, -, refused, -⟩ | ⟨impossible, -⟩ | impossible)
  · exact refused rfl
  · exact absurd (Call.save.inj impossible) (by decide)
  · exact impossible

/-- **Retrying a refused save can replace the row of another object.**  The second domain is given
the key of the first and refused; saved again, it takes the row of the first for its own. -/
theorem finance_retry_replaces :
    let history := [Call.save "sales", Call.save "finance"]
    let refused := (Finance.twins.after Finance.saver [.save "finance"]).perform Finance.saver
      (.save "sales")
    let retried := (Finance.twins.after Finance.saver history).perform Finance.saver (.save "sales")
    Finance.twins.Fresh Finance.registry ∧
      Finance.twins.Authors Finance.saver "finance" "vra_domain" "k" history ∧
      (Finance.twins.after Finance.saver history).stored? "vra_domain" "k" =
        some [.text "k", .text "Finance", .text "00ff00", .text "FIN"] ∧
      refused.1 = .error (.constraint (.duplicateKey "dom_id" "k")) ∧ retried.1 = .ok () ∧
      retried.2.stored? "vra_domain" "k" =
        some [.text "k", .text "Sales", .text "ff0000", .text "SAL"] :=
  ⟨Finance.twins_fresh, .inr (.inl ⟨rfl, rfl, _, rfl⟩), rfl, rfl, rfl, rfl⟩

end Session

end EntityStore
