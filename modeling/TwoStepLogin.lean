import TwoStepLogin.Effect.Program
import TwoStepLogin.Text.Blank
import TwoStepLogin.Text.Percent
import TwoStepLogin.Text.Base64
import TwoStepLogin.Digest.Sha256
import TwoStepLogin.Number.Decimal
import TwoStepLogin.Number.Shortest
import TwoStepLogin.Json.Record
import TwoStepLogin.Json.Printer
import TwoStepLogin.Text.Quoted
import TwoStepLogin.Account.Directory
import TwoStepLogin.Login.Parameters
import TwoStepLogin.Login.Session
import TwoStepLogin.Login.Flow
import TwoStepLogin.Login.DeviceMethod
import TwoStepLogin.Account.Wire
import TwoStepLogin.Fido.Wire
import TwoStepLogin.Host.Service
import TwoStepLogin.Toml.Document
import TwoStepLogin.Toml.Record
import TwoStepLogin.Settings.Load
import TwoStepLogin.Login.Assembly
import TwoStepLogin.Fido.Remote
import TwoStepLogin.Rehearsal.Stage
import TwoStepLogin.Rehearsal.ScriptedMethod
import TwoStepLogin.Host.Startup
import TwoStepLogin.Web.Transfer
import TwoStepLogin.Host.SessionId
import TwoStepLogin.Main
import TwoStepLogin.Proofs.Login.StepDiscipline
import TwoStepLogin.Proofs.Login.ChallengeUse
import TwoStepLogin.Proofs.Login.TwoFactor
import TwoStepLogin.Proofs.Host.SessionIds
import TwoStepLogin.Proofs.Login.SessionShape
import TwoStepLogin.Proofs.Login.SingleAttempt
import TwoStepLogin.Proofs.Host.WaitingSessions
import TwoStepLogin.Proofs.Login.SharedDirectory
import TwoStepLogin.Proofs.Login.Enrollment
import TwoStepLogin.Proofs.Host.ExpiringMap
import TwoStepLogin.Proofs.Login.RightfulLogin
import TwoStepLogin.Proofs.Login.ApartLogins
import TwoStepLogin.Proofs.Login.ShownChallenge
import TwoStepLogin.Proofs.Account.PasswordDigests
import TwoStepLogin.Proofs.Account.DirectoryHistory
import TwoStepLogin.Proofs.Json.ParsedValues
import TwoStepLogin.Proofs.Login.StoredChallenge
import TwoStepLogin.Proofs.Fido.WebDiscovery
import TwoStepLogin.Proofs.Login.Secrecy
import TwoStepLogin.Proofs.Host.ExtraFields
import TwoStepLogin.Proofs.Host.WireRecords
import TwoStepLogin.Proofs.Settings.Overrides
import TwoStepLogin.Proofs.Settings.Layers
import TwoStepLogin.Proofs.Login.Footprint
import TwoStepLogin.Proofs.Login.DevicePreparation
import TwoStepLogin.Proofs.Login.ResponseJudgement
import TwoStepLogin.Proofs.Login.FailedSubmissions
import TwoStepLogin.Proofs.Fido.BoundedSearch
import TwoStepLogin.Proofs.Text.Escapes
import TwoStepLogin.Proofs.Web.FormFields
import TwoStepLogin.Proofs.Fido.StartAddresses
import TwoStepLogin.Proofs.Login.MethodStart
import TwoStepLogin.Proofs.Login.SubmittedFields
import TwoStepLogin.Proofs.Settings.RefusedLines
import TwoStepLogin.Proofs.Host.TimeoutLimits
import TwoStepLogin.Proofs.Host.ReturnedCookie
