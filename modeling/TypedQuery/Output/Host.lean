-- SUMMARY: What a program needs from the world around it.
import TypedQuery.Event
import TypedQuery.Output.FileTree
import TypedQuery.Source.Address

/-!
# Hosts

A host carries out what a program asks for: operations on files, requests, and reports. Programs are
written for any host; `World.host` is the one whose world is a value.
-/
namespace TypedQuery

/-- A request for the content of an address. -/
structure HttpRequest where
  address : Address
  headers : List (String × String)
  deriving DecidableEq, Repr

/-- The answer to a request. -/
structure HttpResponse where
  status : Nat
  body : ByteArray

/-- The operations of the world around a program. -/
structure Host (m : Type → Type) where
  contains : String → m Bool
  read : String → m (Except FileFault ByteArray)
  removeDirectory : String → m (Except FileFault Unit)
  isDirectory : String → m Bool
  /-- Make a directory inside one that exists. -/
  makeDirectory : String → m (Except FileFault Unit)
  /-- Make an empty file, or empty one that exists. -/
  create : String → m (Except FileFault Unit)
  write : String → String → m (Except FileFault Unit)
  /-- Send a request; there may be no answer. -/
  fetch : HttpRequest → m (Option HttpResponse)
  report : Event → m Unit

/-- A world as a value. -/
structure World where
  disk : Disk
  /-- What services answer. -/
  network : HttpRequest → Option HttpResponse := fun _ => none
  /-- The requests that were answered, in order. -/
  requests : List HttpRequest := []
  /-- The reports, in order. -/
  events : List Event := []

namespace World

/-- Change the disk, unless that fails. -/
def change (f : Disk → Except FileFault Disk) : StateM World (Except FileFault Unit) := fun w =>
  match f w.disk with
  | .ok disk => (.ok (), { w with disk })
  | .error fault => (.error fault, w)

/-- Send a request to the network. -/
def send (r : HttpRequest) : StateM World (Option HttpResponse) := fun w =>
  match w.network r with
  | some response => (some response, { w with requests := w.requests ++ [r] })
  | none => (none, w)

/-- The host that works on a world as a value. -/
def host : Host (StateM World) where
  contains path := fun w => (w.disk.contains path, w)
  read path := fun w => (w.disk.read path, w)
  removeDirectory path := change (·.removeDirectory path)
  isDirectory path := fun w => (w.disk.isDirectory path, w)
  makeDirectory path := change (·.makeDirectory path)
  create path := change (·.write path .empty)
  write path text := change (·.write path text.toUTF8)
  fetch := send
  report e := fun w => ((), { w with events := w.events ++ [e] })

end World

end TypedQuery
