import Storefront.Account.Command
import Storefront.Account.Resource
import Storefront.Http.Request

namespace Storefront.Account

open Http (Request Response)
open Json (Form Field Entries)

def textFields (names : List String) : List Field := names.map (⟨·, .text⟩)

def registerForm : Form :=
  ⟨"RegisterRequest", textFields ["name", "email", "password", "confirmPassword"]⟩

def loginForm : Form := ⟨"LoginRequest", textFields ["email", "password"]⟩

def forgotForm : Form := ⟨"ForgotPasswordRequest", textFields ["email"]⟩

def resetForm : Form :=
  ⟨"ResetPasswordRequest", textFields ["token", "newPassword", "password", "confirmPassword"]⟩

def profileForm : Form := ⟨"UpdateProfileRequest", textFields ["name", "email"]⟩

def changePasswordForm : Form :=
  ⟨"ChangePasswordRequest", textFields ["oldPassword", "newPassword", "confirmPassword"]⟩

def appointmentForm : Form :=
  ⟨"CreateAdminRequest", textFields ["name", "email", "password", "role"]⟩

def userForm : Form := ⟨"UpdateUserRequest", textFields ["name", "email", "role"]⟩

def Registration.ofEntries (e : Entries) : Registration :=
  ⟨e.text? "name", e.text? "email", e.text? "password", e.text? "confirmPassword"⟩

def Credentials.ofEntries (e : Entries) : Credentials := ⟨e.text? "email", e.text? "password"⟩

/-- The new password has two names, of which the first one is looked at first. -/
def Reset.ofEntries (e : Entries) : Reset :=
  ⟨e.text? "token", (e.text? "newPassword").or (e.text? "password"), e.text? "confirmPassword"⟩

def ProfileChange.ofEntries (e : Entries) : ProfileChange := ⟨e.text? "name", e.text? "email"⟩

def PasswordChange.ofEntries (e : Entries) : PasswordChange :=
  ⟨e.text? "oldPassword", e.text? "newPassword", e.text? "confirmPassword"⟩

def Appointment.ofEntries (e : Entries) : Appointment :=
  ⟨e.text? "name", e.text? "email", e.text? "password", e.text? "role"⟩

def UserChange.ofEntries (e : Entries) : UserChange :=
  ⟨e.text? "name", e.text? "email", e.text? "role"⟩

/-- The fields of a form in the body of a request. -/
def readForm (r : Request) (f : Form) : Except Response Entries :=
  (r.read f).mapError fun m => (Refusal.validation m).response

/-- The identifier in a path. -/
def userIdOf (id : String) : Except Response UserId :=
  match Uuid.ofPadded? id with
  | some u => .ok u
  | none => .error (Refusal.validation "Invalid user id").response

def Entrance.command (r : Request) : Entrance → Except Response Command
  | .register => do .ok (.register (.ofEntries (← readForm r registerForm)))
  | .login => do .ok (.login (.ofEntries (← readForm r loginForm)))
  | .refresh => .ok (.refresh (Http.Cookie.find? r.headers Http.Cookie.refreshName))
  | .logout => .ok .logout
  | .forgotPassword => do .ok (.forgotPassword ((← readForm r forgotForm).text? "email"))
  | .resetPassword => do .ok (.resetPassword (.ofEntries (← readForm r resetForm)))

def Own.command (r : Request) (who : UserId) : Own → Except Response Command
  | .profile => .ok (.profile who)
  | .updateProfile => do .ok (.updateProfile who (.ofEntries (← readForm r profileForm)))
  | .changePassword => do .ok (.changePassword who (.ofEntries (← readForm r changePasswordForm)))
  | .deleteAccount => .ok (.deleteAccount who)

/-- A form is read before the identifier in the path. -/
def Panel.command (r : Request) : Panel → Except Response Command
  | .createAdmin => do .ok (.createAdmin (.ofEntries (← readForm r appointmentForm)))
  | .users => .ok .listUsers
  | .user none => .error (Http.unreadableParameter "id")
  | .user (some id) =>
    if r.method = .delete then do .ok (.deleteUser (← userIdOf id))
    else do
      let e ← readForm r userForm
      .ok (.updateUser (← userIdOf id) (.ofEntries e))

end Storefront.Account
