import Storefront.Account.Administration
import Storefront.Account.Profile
import Storefront.Account.Recovery
import Storefront.Account.SignIn

namespace Storefront.Account

/-- What the service does with a command that comes in at `now`. -/
def Command.plan (P : Primitives) (s : Settings) (d : Draws) (now : Instant) : Command → Plan Outcome
  | .register r => Account.register P s d r
  | .login c => Account.login P s c
  | .refresh token => Account.refresh P s now token
  | .logout => pure .signedOut
  | .forgotPassword email => Account.forgotPassword P s d email
  | .resetPassword r => Account.resetPassword P s d r
  | .profile who => Account.profile who
  | .updateProfile who c => Account.updateProfile P who c
  | .changePassword who c => Account.changePassword P s d who c
  | .deleteAccount who => Account.deleteAccount who
  | .createAdmin a => Account.createAdmin P s d a
  | .listUsers => Account.listUsers
  | .deleteUser id => Account.deleteUser id
  | .updateUser id c => Account.updateUser P id c

end Storefront.Account
