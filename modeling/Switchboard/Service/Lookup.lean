import Switchboard.Service.Shared

/-!
Looking services up, in whichever directory there is.
-/

namespace Switchboard

class ServiceLookup (D : Type) where
  /-- The service of a name. -/
  resolve : D → String → Except ServiceError Service

instance : ServiceLookup LocalDirectory where
  resolve := LocalDirectory.resolve

/-- A directory of either kind; a shared one comes with the folder it reads. -/
inductive ServiceDirectory
  | inProcess (directory : LocalDirectory)
  | shared (directory : SharedDirectory) (folder : Folder)
  deriving DecidableEq, Repr

instance : ServiceLookup ServiceDirectory where
  resolve directory name :=
    match directory with
    | .inProcess d => d.resolve name
    | .shared d folder => d.resolve folder name

end Switchboard
