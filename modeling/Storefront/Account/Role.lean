namespace Storefront.Account

/-- What a user is allowed to do, in one word. -/
inductive Role where
  | user
  | admin
  | superadmin
  | moderator
  | support
  | manager
  deriving DecidableEq

namespace Role

def all : List Role := [.user, .admin, .superadmin, .moderator, .support, .manager]

def code : Role → String
  | .user => "user"
  | .admin => "admin"
  | .superadmin => "superadmin"
  | .moderator => "moderator"
  | .support => "support"
  | .manager => "manager"

def ofCode? (s : String) : Option Role := all.find? fun r => r.code == s

/-- What a user is without further ado. -/
def usual : Role := .user

/-- Roles with access to the administration pages. -/
def isPanel : Role → Bool
  | .user => false
  | _ => true

/-- Roles a superadmin may give to a new account. -/
def isAssignable : Role → Bool
  | .admin | .superadmin => true
  | _ => false

theorem ofCode?_code (r : Role) : ofCode? r.code = some r := by
  cases r <;> decide

end Role
end Storefront.Account
