/-!
# Kinds of hooks

The three moments at which a host calls its cache hooks.
-/

namespace TokenPersistence

set_option autoImplicit false

inductive HookKind where
  | beforeAccess
  | afterAccess
  | beforeWrite
  deriving DecidableEq, Repr, Inhabited

namespace HookKind

def all : List HookKind := [beforeAccess, afterAccess, beforeWrite]

def name : HookKind → String
  | beforeAccess => "before_access"
  | afterAccess => "after_access"
  | beforeWrite => "before_write"

def ofName? (name : String) : Option HookKind := all.find? fun kind => kind.name == name

end HookKind

end TokenPersistence
