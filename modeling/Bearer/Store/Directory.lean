import Bearer.Store.Table
import Bearer.Token
/-! The users that the service can name. -/

namespace Bearer

structure Directory where
  users : Table Uuid Descriptor

namespace Directory

instance : Inhabited Directory := ⟨⟨Table.empty⟩⟩

/-- A later descriptor of a user replaces an earlier one. -/
def insert (d : Directory) (u : Descriptor) : Directory := ⟨d.users.insert u.user u⟩

def ofList (us : List Descriptor) : Directory := us.foldl insert default

def remove (d : Directory) (user : Uuid) : Option Descriptor × Directory :=
  (d.users.get? user, ⟨d.users.erase user⟩)

def resolve (d : Directory) (user : Uuid) : Except Fault Descriptor :=
  match d.users.get? user with
  | some u => .ok u
  | none => .error (.notFound ("user " ++ user.text))

end Directory

end Bearer
