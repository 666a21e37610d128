import Entitlements.Dictionary
import Entitlements.FileTree
import Entitlements.Json.Reader

set_option autoImplicit false

/-!
Dictionaries from directories. Each directory within is a locale when it holds a file of labels; a
directory that is not there gives an empty dictionary.
-/

namespace Entitlements.Dictionary

def fileName : List UInt8 := Text.utf8 "permissions.json"

inductive LoadFault where
  | unreadable (fault : FileFault)
  | notJson (path : List UInt8)
  | line (key : String)

def LoadFault.failure : LoadFault → Failure
  | .unreadable fault => ⟨.io, fault.message⟩
  | .notJson path => ⟨.configuration, "invalid translation file " ++ Text.decodeLossy path⟩
  | .line key => refusal key

/-- Adds the lines of one file. -/
def addFile (t : FileTree) (locale : String) (path : List UInt8) : Update LoadFault Unit := do
  match t.readText path with
  | .error fault => throw (.unreadable fault)
  | .ok text =>
    match Json.read? text with
    | some document => (addJson locale document).adaptExcept .line
    | none => throw (.notJson path)

/-- Adds the locales of a directory one after the other. A locale is what its name shows, so names
that spell no text may stand for the same one. -/
def addLocales (t : FileTree) (dir : List UInt8) : List (List UInt8) → Update LoadFault Unit
  | [] => return ()
  | name :: rest => do
    let path := FileTree.join (FileTree.join dir name) fileName
    if t.hasFile path then addFile t (Text.decodeLossy name) path
    addLocales t dir rest

def loadDir (t : FileTree) (dir : List UInt8) : Except LoadFault Dictionary :=
  match addLocales t dir (t.list dir) ∅ with
  | .ok _ d => .ok d
  | .error fault _ => .error fault

end Entitlements.Dictionary
