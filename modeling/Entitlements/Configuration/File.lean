import Entitlements.Configuration
import Entitlements.FileTree

set_option autoImplicit false

/-!
Configurations from files.
-/

namespace Entitlements.Configuration

inductive LoadFault where
  | unreadable (path : String) (fault : FileFault)
  | document (fault : Fault)

def LoadFault.message : LoadFault → String
  | .unreadable path fault =>
    Failure.message ⟨.configuration, "cannot read " ++ path ++ ": " ++ fault.message⟩
  | .document fault => fault.message

def load (t : FileTree) (path : String) : Except LoadFault Configuration := do
  let text ← (t.readText (Text.utf8 path)).mapError (.unreadable path)
  (read text).mapError .document

end Entitlements.Configuration
