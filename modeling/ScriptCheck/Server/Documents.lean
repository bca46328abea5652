import ScriptCheck.Table
import ScriptCheck.Uri.Basic

/-! The documents that an editor has open. -/

namespace ScriptCheck.Server

structure Document where
  text : String
  version : Int
  language : String
  dirty : Bool
  generation : Nat
deriving DecidableEq, Repr

structure DocumentStore where
  documents : Table Uri Document
  opened : Nat

namespace DocumentStore

def empty : DocumentStore := ⟨.empty, 0⟩

def get? (s : DocumentStore) (uri : Uri) : Option Document := s.documents.get? uri

def «open» (s : DocumentStore) (uri : Uri) (text : String) (version : Int) (language : String) :
    DocumentStore where
  documents := s.documents.insert uri ⟨text, version, language, false, s.opened + 1⟩
  opened := s.opened + 1

def change (s : DocumentStore) (uri : Uri) (text : String) (version : Int) : DocumentStore :=
  { s with documents := s.documents.modify uri fun d => { d with text, version, dirty := true } }

def save (s : DocumentStore) (uri : Uri) (text : Option String) : DocumentStore :=
  { s with
    documents := s.documents.modify uri fun d => { d with text := text.getD d.text, dirty := false } }

def close (s : DocumentStore) (uri : Uri) : DocumentStore :=
  { s with documents := s.documents.erase uri }

/-- Whether the open document is still the one a snapshot was taken of, and unchanged. -/
def isCurrent (s : DocumentStore) (uri : Uri) (snapshot : Document) : Bool :=
  match s.get? uri with
  | some d => d.version = snapshot.version && d.generation = snapshot.generation
  | none => false

inductive Event where
  | opened (uri : Uri) (text : String) (version : Int) (language : String)
  | changed (uri : Uri) (text : String) (version : Int)
  | saved (uri : Uri) (text : Option String)
  | closed (uri : Uri)
deriving DecidableEq, Repr

def apply (s : DocumentStore) : Event → DocumentStore
  | .opened uri text version language => s.open uri text version language
  | .changed uri text version => s.change uri text version
  | .saved uri text => s.save uri text
  | .closed uri => s.close uri

theorem get?_open (s : DocumentStore) (uri u : Uri) (text : String) (version : Int)
    (language : String) :
    (s.open uri text version language).get? u =
      if u = uri then some ⟨text, version, language, false, s.opened + 1⟩ else s.get? u :=
  Table.get?_insert ..

theorem get?_change (s : DocumentStore) (uri u : Uri) (text : String) (version : Int) :
    (s.change uri text version).get? u =
      if u = uri then (s.get? u).map fun d => { d with text, version, dirty := true }
      else s.get? u :=
  Table.get?_modify ..

theorem get?_save (s : DocumentStore) (uri u : Uri) (text : Option String) :
    (s.save uri text).get? u =
      if u = uri then (s.get? u).map fun d => { d with text := text.getD d.text, dirty := false }
      else s.get? u :=
  Table.get?_modify ..

theorem get?_close (s : DocumentStore) (uri u : Uri) :
    (s.close uri).get? u = if u = uri then none else s.get? u :=
  Table.get?_erase ..

end DocumentStore
end ScriptCheck.Server
