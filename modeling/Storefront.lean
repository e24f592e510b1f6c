import Storefront.Account.Administration
import Storefront.Account.Answer
import Storefront.Account.Call
import Storefront.Account.Command
import Storefront.Account.DisplayName
import Storefront.Account.Email
import Storefront.Account.Gate
import Storefront.Account.Plan
import Storefront.Account.Profile
import Storefront.Account.Reading
import Storefront.Account.Recovery
import Storefront.Account.Refusal
import Storefront.Account.ResetToken
import Storefront.Account.Resource
import Storefront.Account.Role
import Storefront.Account.Router
import Storefront.Account.Service
import Storefront.Account.Settings
import Storefront.Account.SignIn
import Storefront.Account.Store
import Storefront.Account.User
import Storefront.Bytes
import Storefront.Bytes.Base64
import Storefront.Cart.Call
import Storefront.Cart.Item
import Storefront.Cart.Refusal
import Storefront.Cart.Router
import Storefront.Cart.Store
import Storefront.Crypto.Argon2
import Storefront.Crypto.Argon2.Block
import Storefront.Crypto.Blake2b
import Storefront.Crypto.Phc
import Storefront.Crypto.Sha256
import Storefront.Decimal.Integer
import Storefront.Decimal.Shortest
import Storefront.Http.Client
import Storefront.Http.Cookie
import Storefront.Http.MediaType
import Storefront.Http.Message
import Storefront.Http.Path
import Storefront.Http.Request
import Storefront.Json.Failure
import Storefront.Json.Form
import Storefront.Json.Reader
import Storefront.Json.Value
import Storefront.Keyed
import Storefront.Net.Address
import Storefront.Password
import Storefront.Primitives
import Storefront.Problem
import Storefront.RateLimit
import Storefront.Settings.Environment
import Storefront.Text.Blank
import Storefront.Text.Case
import Storefront.Text.Case.Letters
import Storefront.Text.Normal
import Storefront.Text.Normal.Compositions
import Storefront.Text.Normal.Decompositions
import Storefront.Text.Quoted
import Storefront.Text.Split
import Storefront.Text.Table
import Storefront.Time
import Storefront.Token
import Storefront.Token.PublicKey
import Storefront.Uuid
import Storefront.Proofs.Conduct
import Storefront.Proofs.Users
import Storefront.Proofs.Canonical
import Storefront.Proofs.Overlap
import Storefront.Proofs.SoundUsers
import Storefront.Proofs.ResetTokens
import Storefront.Proofs.ResetChecks
import Storefront.Proofs.Undisturbed
import Storefront.Proofs.LostUpdates
import Storefront.Proofs.Digits
import Storefront.Proofs.JsonWritten
import Storefront.Proofs.Tokens
import Storefront.Proofs.History
import Storefront.Proofs.Privilege
import Storefront.Proofs.RequestLog
import Storefront.Proofs.LateRequests
import Storefront.Proofs.Courses
import Storefront.Proofs.LiveTokens
import Storefront.Proofs.Credentials
import Storefront.Proofs.Listing
import Storefront.Proofs.CartLedger
import Storefront.Proofs.Cookies
import Storefront.Proofs.LimitedRequests
import Storefront.Proofs.Sessions
import Storefront.Proofs.OverlappingCarts
import Storefront.Proofs.DeletedUsers
import Storefront.Proofs.Performed
import Storefront.Proofs.PermittedChanges
import Storefront.Proofs.FailingCalls
import Storefront.Proofs.Discretion
import Storefront.Proofs.HiddenHashes
import Storefront.Proofs.KnownPasswords
import Storefront.Proofs.TokenKinds
import Storefront.Proofs.Tables
import Storefront.Proofs.LowerCase
import Storefront.Proofs.PasswordPolicy
import Storefront.Proofs.Addresses
import Storefront.Proofs.WindowArithmetic
import Storefront.Proofs.ConfiguredDurations
import Storefront.Proofs.CookieHeaders
import Storefront.Proofs.ContestedAddresses
import Storefront.Proofs.CommutingAdds
import Storefront.Proofs.SteadyListings
