import LevelStore.Failure
import LevelStore.Log
import LevelStore.Storage.Statement

/-!
Connections and how they run statements. A transaction begins with the first insert or delete,
whether or not that succeeds, and not with a read or a schema change; what was changed before is
permanent, what comes after is kept or undone as a whole.

A connection also remembers three things across transactions. A statement whose text it has prepared
before and not forgotten since is not prepared again, so that a missing table shows only when the
statement runs, after its values were looked at. It prepares by the schema that it last saw, so that
the same holds of a table that another connection dropped; if by that schema a table is missing, it
looks again. And it keeps the error of its last statement until something succeeds: if the first
value of a statement cannot be handed over, that error is what the caller gets.
-/

namespace LevelStore

structure StatementMemory where
  capacity : Nat := 128
  prepared : List StatementText := []
  /-- The database as it was last seen, of which the schema counts. -/
  seen : Option Database := none
  lastError : Option Storage.StatementError := none
deriving DecidableEq, Repr

structure Access where
  unreadable : Option Storage.FileError := none
  /-- No statement may write, even if it would change nothing. -/
  readOnly : Bool := false
  unchangeable : Option Storage.FileError := none
deriving DecidableEq, Repr

structure FileUse where
  consulted : Bool := false
  read : List TableName := []
  changed : Bool := false
  committed : Bool := false
  altered : Bool := false
deriving DecidableEq, Repr

structure Transaction where
  before : Database
  changed : Bool := false
  altered : Bool := false
deriving DecidableEq, Repr

structure Connection where
  database : Database
  running : Option Transaction := none
  memory : StatementMemory := {}
  access : Access := {}
  use : FileUse := {}
deriving DecidableEq, Repr

namespace StatementMemory

/-- Puts a text in front; of too many texts the one used longest ago is forgotten. -/
def remember (m : StatementMemory) (text : StatementText) : StatementMemory :=
  { m with prepared := (text :: m.prepared.erase text).take m.capacity }

def knows (m : StatementMemory) (text : StatementText) : Bool := m.prepared.contains text

end StatementMemory

structure Step (α : Type) where
  outcome : Except Failure α
  connection : Connection
  log : List LogEntry := []

namespace Step

def map {α β : Type} (f : α → β) (s : Step α) : Step β :=
  ⟨s.outcome.map f, s.connection, s.log⟩

def andThen {α β : Type} (s : Step α) (next : α → Connection → Step β) : Step β :=
  match s.outcome with
  | .error e => ⟨.error e, s.connection, s.log⟩
  | .ok a =>
    let t := next a s.connection
    ⟨t.outcome, t.connection, s.log ++ t.log⟩

end Step

namespace Connection

def forgetError (c : Connection) : Connection :=
  { c with memory := { c.memory with lastError := none } }

def noteError (c : Connection) (e : Storage.StatementError) : Connection :=
  { c with memory := { c.memory with lastError := some e } }

def look (c : Connection) : Connection :=
  let seen := if c.access.unreadable.isNone then some c.database else c.memory.seen
  { c with memory := { c.memory with seen := seen }, use := { c.use with consulted := true } }

def remember (c : Connection) (text : StatementText) : Connection :=
  { c with memory := c.memory.remember text }

def fail {α : Type} (c : Connection) (e : Storage.StatementError) : Step α :=
  ⟨.error (.ofStatement e), (c.noteError e).look, []⟩

def begin (c : Connection) : Connection :=
  match c.running with
  | some _ => c
  | none => { c.forgetError with running := some { before := c.database } }

def commit (c : Connection) : Connection :=
  match c.running with
  | some t =>
    { c.forgetError with
      running := none
      use := { c.use with
        committed := c.use.committed || t.changed
        altered := c.use.altered || t.altered } }
  | none => c

def noteRead (c : Connection) (tables : List TableName) : Connection :=
  { c with use := { c.use with read := tables ++ c.use.read } }

/-- Takes note of a change. Outside a transaction it is permanent at once. -/
def noteChange (c : Connection) (altered : Bool) : Connection :=
  match c.running with
  | some t =>
    { c with
      running := some { t with changed := true, altered := t.altered || altered }
      use := { c.use with changed := true } }
  | none =>
    { c with use := { c.use with
        changed := true
        committed := true
        altered := c.use.altered || altered } }

/-- Undoes the running transaction. If it has changed the schema, what was seen of it no longer
counts. -/
def rollback (c : Connection) : Connection :=
  match c.running with
  | some t =>
    { c with
      database := t.before
      running := none
      memory := { c.memory with
        seen := if t.altered then none else c.memory.seen
        lastError := none } }
  | none => c

def transaction {α : Type} (c : Connection) (body : Connection → Step α) : Step α :=
  let s := body c
  { s with connection := match s.outcome with
    | .ok _ => s.connection.commit
    | .error _ => s.connection.rollback }

def inspect {α : Type} (c : Connection) (texts : List StatementText) (read : Database → α) :
    Step α :=
  match c.access.unreadable with
  | some e => c.fail (.file e)
  | none =>
    let shown := texts.filterMap StatementText.shown?
    ⟨.ok (read c.database), ((texts.foldl remember c.forgetError).noteRead shown).look, []⟩

def lookUp (c : Connection) (table : TableName) : Step Bool :=
  c.inspect (StatementText.lookUps c.database table) fun db => db.has table

def isSetUp (c : Connection) : Step Bool :=
  (c.lookUp .levels).andThen fun present c =>
    if present then c.lookUp .counter else ⟨.ok false, c, []⟩

def obstacle? (c : Connection) (writes : Bool) : Option Storage.FileError :=
  if writes && c.access.readOnly then some .readOnly else c.access.unreadable

/-- Prepares a schema change unless its text is known: it has to fit the schema, as last seen or
else as it is. Only of a second guard nothing but the schema last seen decides. -/
def prepareChange (c : Connection) (text : StatementText)
    (change : Database → Except Storage.SchemaError Database) : Step Unit :=
  if c.memory.knows text then ⟨.ok (), c.remember text, []⟩
  else match c.memory.seen.map change, c.access.unreadable, change c.database with
  | some (.ok _), _, _ => ⟨.ok (), c.remember text, []⟩
  | some (.error (.guardExists table)), _, _ =>
    let e := Storage.StatementError.schema (.guardExists table)
    ⟨.error (.ofStatement e), c.noteError e, []⟩
  | some (.error e), some _, _ => c.fail (.schema e)
  | none, some e, _ => c.fail (.file e)
  | _, none, .error e => c.fail (.schema e)
  | _, none, .ok _ => ⟨.ok (), c.remember text, []⟩

/-- A schema change, by statements of the given texts; without any there is nothing to do. It is no
write: it begins no transaction. -/
def alter (c : Connection) (texts : List StatementText)
    (change : Database → Except Storage.SchemaError Database) : Step Unit :=
  match texts with
  | [] => ⟨.ok (), c, []⟩
  | text :: texts =>
    (c.prepareChange text change).andThen fun _ c =>
      match c.obstacle? true, change c.database, c.access.unchangeable with
      | some e, _, _ => c.fail (.file e)
      | none, .error e, _ => c.fail (.schema e)
      | none, .ok _, some e => c.fail (.file e)
      | none, .ok db, none =>
        let made := db.tables.filter fun table => !c.database.has table
        let after := { (c.forgetError.noteChange true).noteRead made with database := db }
        ⟨.ok (), (texts.foldl remember after).look, []⟩

/-- Prepares a statement unless its text is known; its table has to be there, or was when last
seen. -/
def prepare (c : Connection) (form : StatementForm) : Except Storage.StatementError Connection :=
  let prepared := c.remember (.rows form)
  if c.memory.knows (.rows form) then .ok prepared
  else if c.memory.seen.any fun db => db.has form.table then .ok prepared.forgetError
  else match c.access.unreadable, c.memory.seen with
  | some e, none => .error (.file e)
  | some _, some _ => .error (.schema (.noSuchTable form.table))
  | none, _ =>
    if c.database.has form.table then .ok prepared.forgetError.look
    else .error (.schema (.noSuchTable form.table))

/-- What a caller gets if a value cannot be handed over. Once a value before it was, no older error
is left. -/
def refuse (c : Connection) (e : Storage.ParameterError) : Failure × Connection :=
  if e.position = 1 then
    ((c.memory.lastError.map Failure.ofStatement).getD (.parameter e), c)
  else (.parameter e, c.forgetError)

def permitted {α : Type} (c : Connection) (form : StatementForm)
    (result : Except Storage.StatementError (α × Database)) :
    Except Storage.StatementError (α × Database) :=
  match c.obstacle? form.writes, result, c.access.unchangeable with
  | some e, _, _ => .error (.file e)
  | none, .ok (_, db), some e => if form.changes c.database db then .error (.file e) else result
  | none, _, _ => result

def settle (c : Connection) (form : StatementForm) (db : Database) : Connection :=
  let noted := if form.changes c.database db then c.noteChange false else c
  { noted.forgetError with database := db }.look

def execute {α β : Type} (c : Connection) (form : StatementForm)
    (values : Except Storage.ParameterError β)
    (body : β → Database → Except Storage.StatementError (α × Database)) : Step α :=
  match c.prepare form with
  | .error e => c.fail e
  | .ok c =>
    let c := if form.writes then c.begin else c
    match values with
    | .error e =>
      let (failure, c) := c.refuse e
      ⟨.error failure, c, []⟩
    | .ok values =>
      let c := c.noteRead [form.table]
      match c.permitted form (body values c.database) with
      | .error e => c.fail e
      | .ok (a, db) => ⟨.ok a, c.settle form db, []⟩

end Connection

end LevelStore
