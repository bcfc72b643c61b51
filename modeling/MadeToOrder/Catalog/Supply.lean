import MadeToOrder.Catalog.File
import MadeToOrder.Catalog.Store

/-!
# The supply of snapshots

A store together with the source that its refreshes fetch from. What the source
does is part of the state: it delivers a document, reports a failure, or does
not answer in time; and before it delivers its lines, someone else may install a
snapshot.
-/

set_option autoImplicit false

namespace MadeToOrder

inductive Response where
  | delivers
  | fails (reason : String)
  | hangs

structure Feed where
  file : CatalogFile
  response : Response
  /-- What someone else installs before the next fetch reads its lines. -/
  rival : Option (Except Fault Snapshot)

def Feed.ofFile (file : CatalogFile) : Feed := ⟨file, .delivers, none⟩

structure Supply where
  table : FieldTable
  feed : Feed
  timeout : Value
  store : Store

namespace Supply

def ofFeed (table : FieldTable) (feed : Feed) (timeout : Value) : Supply :=
  ⟨table, feed, timeout, Store.empty⟩

def respond (s : Supply) (response : Response) : Supply :=
  { s with feed := { s.feed with response := response } }

def deliver (s : Supply) (file : CatalogFile) : Supply :=
  { s with feed := { s.feed with file := file, response := .delivers } }

def race (s : Supply) (rival : Except Fault Snapshot) : Supply :=
  { s with feed := { s.feed with rival := some rival, response := .delivers } }

def install (s : Supply) (snapshot : Snapshot) : Supply :=
  { s with store := s.store.install snapshot }

def recover (s : Supply) : Supply :=
  match s.feed.response with
  | .hangs => s.respond .delivers
  | _ => s

def yieldToRival (s : Supply) : Supply × Option Fault :=
  let rest : Supply := { s with feed := { s.feed with rival := none } }
  match s.feed.rival with
  | some (.ok snapshot) => (rest.install snapshot, none)
  | some (.error fault) => (rest, some fault)
  | none => (s, none)

def build (s : Supply) (asOf : String) : Supply × Fetched :=
  match s.yieldToRival with
  | (s, some fault) => (s, .failed fault)
  | (s, none) =>
    match s.feed.file.snapshot s.table asOf with
    | .ok snapshot => (s, .built snapshot)
    | .error fault => (s, .failed fault)

def fetch (s : Supply) (limit : Value) (asOf : String) : Supply × Fetched :=
  match s.feed.response with
  | .delivers => s.build asOf
  | .fails reason => (s, .failed (.unavailable reason))
  | .hangs => (s, .timedOut limit)

def refresh (s : Supply) (limit : Value) (asOf : String) : Supply × Except Fault Refreshed :=
  let limit := if limit.isNull then s.timeout else limit
  let (store, generation) := s.store.begin
  let (s, fetched) := { s with store := store }.fetch limit asOf
  let (store, result) := s.store.finish generation fetched
  ({ s with store := store }, result)

def current (s : Supply) (asOf : String) : Supply × Except Fault Snapshot :=
  match s.store.snapshot with
  | some snapshot => (s, .ok snapshot)
  | none =>
    let (s, result) := s.refresh .null asOf
    (s, result.map Refreshed.snapshot)

end Supply

end MadeToOrder
