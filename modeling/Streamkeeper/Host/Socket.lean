import Streamkeeper.Host.Files

/-!
Local sockets.

A socket has a name in the file system, or, when its name begins with the NUL character, a name that
no file has.  A name in the file system has to be free before a socket is made there, and stays when
nobody listens any more; the other names come and go with their listener.
-/

namespace Streamkeeper.Host

/-- Where a socket is found. -/
inductive Endpoint where
  | place (place : Place)
  | detached (name : String)
deriving Repr, DecidableEq

/-- A name that can be given to a socket. -/
inductive Address where
  | path (path : String)
  | detached (name : String)
deriving Repr, DecidableEq

namespace Address

/-- The space for the name of a socket, in octets. -/
def limit : Nat := 108

/-- The name of a detached socket, if the text is one. -/
def detachedName? (text : String) : Option String :=
  match text.toList with
  | c :: name => if c = '\x00' then some (String.ofList name) else none
  | [] => none

/-- Reads an address.  The last octet of the space ends a path, and the first one marks a detached
name. -/
def ofText (text : String) : Except IoError Address :=
  match detachedName? text with
  | some name =>
    if limit ≤ octetCount name then .error .detachedNameTooLong else .ok (.detached name)
  | none =>
    if text.toList.contains '\x00' then .error .nulInAddress
    else if limit ≤ octetCount text then .error .addressTooLong
    else .ok (.path text)

end Address

namespace FileSystem

/-- Makes a socket that someone listens on. -/
def bind (fs : FileSystem) (text : String) : Except IoError (FileSystem × Endpoint) := do
  match ← Address.ofText text with
  | .detached name => .ok (fs, .detached name)
  | .path path =>
    match ← fs.spotOfNew path with
    | .taken _ _ => .error (.os .addressInUse)
    | .free place =>
      if wantsDirectory path then .error (.os .noEntry)
      else .ok (fs.put place .socket, .place place)

/-- Connects to a socket; `isListening` says where someone listens. -/
def connect (fs : FileSystem) (isListening : Endpoint → Bool) (text : String) :
    Except IoError Unit := do
  match ← Address.ofText text with
  | .detached name =>
    if isListening (.detached name) then .ok () else .error (.os .connectionRefused)
  | .path path =>
    match ← fs.locate true path with
    | .free _ => .error (.os .noEntry)
    | .taken place .socket =>
      if isListening (.place place) then .ok () else .error (.os .connectionRefused)
    | .taken _ _ => .error (.os .connectionRefused)

end FileSystem

end Streamkeeper.Host
