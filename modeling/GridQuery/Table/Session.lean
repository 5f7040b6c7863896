import GridQuery.Table.Selection

/-!
# Sessions

A session is a store together with the selections made from it, each under a name. Its actions are
the ways in which either changes. An action that fails leaves both as they were, but for an update,
which keeps what it has written before it failed.

## Main definitions

* `Session`, `Action`: The state and what may be done to it.
* `Session.perform`: An action, with its reply.
* `Session.run`: Actions in a row, the replies forgotten.
-/

namespace GridQuery

/-- A store and named selections. -/
structure Session where
  store : Store
  selections : List (String × Selection)
  deriving DecidableEq

/-- What may be done in a session; selections are known by their names. -/
inductive Action
  | select (table conditions name : String)
  | narrow (source conditions name : String)
  | copy (source name : String)
  | update (source : String) (patch : Fields)
  | delete (source : String)
  | drop (source : String)
  | insertTable (table : Table)
  | updateRow (table id : String) (patch : Fields)
  | deleteRows (table : String) (ids : List String)
  deriving DecidableEq

/-- What an action answers. -/
inductive Reply
  | selected (selection : Selection)
  | updated (rows : List Row) (error : Option QueryError)
  | deleted (count : Nat)
  | dropped (rows : List Row)
  | stored
  | failed (error : QueryError)
  | noSelection
  deriving DecidableEq

namespace Session

/-- The selection under a name. -/
def selection? (session : Session) (name : String) : Option Selection :=
  session.selections.lookup name

/-- Keeps a selection under a name, in place of the one there. -/
def keep (session : Session) (name : String) (s : Selection) : Session :=
  { session with
    selections := (name, s) :: session.selections.filter fun (other, _) => other != name }

/-- Keeps a new selection, if it could be made. -/
def keepNew (session : Session) (name : String) :
    Except QueryError Selection → Session × Reply
  | .error e => (session, .failed e)
  | .ok s => (session.keep name s, .selected s)

/-- Goes on with the selection under a name, if there is one. -/
def withSelection (session : Session) (name : String) (go : Selection → Session × Reply) :
    Session × Reply :=
  match session.selection? name with
  | none => (session, .noSelection)
  | some s => go s

/-- Puts a changed store in place, if the change could be made. -/
def keepStore (session : Session) : Except QueryError Store → Session × Reply
  | .error e => (session, .failed e)
  | .ok store => ({ session with store }, .stored)

/-- Performs an action. -/
def perform (session : Session) : Action → Session × Reply
  | .select table conditions name => session.keepNew name (session.store.select table conditions)
  | .narrow source conditions name =>
    session.withSelection source fun s => session.keepNew name (s.narrow conditions)
  | .copy source name => session.withSelection source fun s => session.keepNew name (.ok s)
  | .update source patch => session.withSelection source fun s =>
    let (store, updated, e) := s.update session.store patch
    ({ session with store }.keep source updated, .updated updated.rows e)
  | .delete source => session.withSelection source fun s =>
    match s.delete session.store with
    | .error e => (session, .failed e)
    | .ok (store, emptied, count) =>
      ({ session with store }.keep source emptied, .deleted count)
  | .drop source => session.withSelection source fun s =>
    ({ session with
        selections := session.selections.filter fun (other, _) => other != source },
      .dropped s.rows)
  | .insertTable table => session.keepStore (.ok (session.store.insert table))
  | .updateRow table id patch => session.keepStore (session.store.updateRow table id patch)
  | .deleteRows table ids => session.keepStore (session.store.deleteRows table ids)

/-- Performs actions in a row. -/
def run (session : Session) (actions : List Action) : Session :=
  actions.foldl (fun session action => (session.perform action).1) session

end Session

end GridQuery
