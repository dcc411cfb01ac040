import TwoStepLogin.Fido.Ceremony
import TwoStepLogin.Fido.Discovery
import TwoStepLogin.Login.Method

/-!
# Password and device

The method of two steps: the directory checks a password, then the FIDO server checks a device. A
user without a device for the application enrols one, others authenticate by theirs.

* `Login.DeviceMethod.configure` — read the host's attributes and find the FIDO server;
* `Login.DeviceMethod.checkPassword` — the first step;
* `Login.DeviceMethod.prepareDevice` — start the ceremony of the second step;
* `Login.DeviceMethod.checkDevice` — finish it;
* `Login.deviceMethod` — the method made of these.
-/

set_option autoImplicit false

namespace TwoStepLogin.Login

namespace DeviceMethod

/-- Attribute with the address of the FIDO server. -/
def serverUriKey : String := "u2f_server_uri"

/-- Attribute with the application for which devices are enrolled. -/
def applicationIdKey : String := "u2f_application_id"

/-- Field with the device's signed response. -/
def tokenField : String := "tokenResponse"

/-- Field with the name of the workflow. -/
def workflowField : String := "authMethod"

/-- The page of the device step. -/
def devicePage : String := "/auth/u2f/login"

/-- Number of steps that ask the user for something. -/
def stepCount : UInt32 := 2

/-- Read the attributes, then fetch the FIDO server's configuration. -/
def configure (policy : Fido.RetryPolicy) (attributes : Attributes) :
    Action (Except Fido.Discovery.Failure Configuration) := do
  Program.log (.info "U2F. Initialization")
  match attributes.present? serverUriKey with
  | none => pure (.error (.missingAttribute serverUriKey))
  | some serverUri =>
    match attributes.present? applicationIdKey with
    | none => pure (.error (.missingAttribute applicationIdKey))
    | some applicationId => do
      let found ← Fido.discover policy serverUri
      match found with
      | .error failure => pure (.error failure)
      | .ok metadata => do
        Program.log (.info "U2F. Initialized successfully")
        pure (.ok ⟨(attributes.set serverUriKey serverUri).set applicationIdKey applicationId,
          metadata⟩)

/-- The first step: check the password and bind the session to the user. -/
def checkPassword (credentials : Credentials) (session : Session) : Action (Bool × Session) := do
  Program.log (.info "U2F. Authenticate for step 1")
  if credentials.userName.isEmpty || credentials.password.isEmpty then do
    Program.log (.warn "U2F. Authenticate for step 1. Username or password is empty")
    pure (false, session)
  else do
    let accepted : Bool ← directory (.authenticate credentials.userName credentials.password)
    if accepted then do
      let found ← directory (.findUser credentials.userName)
      match found with
      | .ok (some user) => session.bindUser user
      | .ok none => do
        Program.log (.error ("U2F. Authenticate for step 1. User " ++ credentials.userName ++
          " vanished from the directory"))
        pure (false, session)
      | .error fault => do
        Program.log (.error ("U2F. Authenticate for step 1. Directory lookup failed: " ++
          fault.message))
        pure (false, session)
    else do
      Program.log (.warn ("U2F. Authenticate for step 1. Invalid credentials for user " ++
        credentials.userName))
      pure (false, session)

/-- Start to enrol a device and remember the challenge. -/
def startEnrollment (configuration : Configuration) (session : Session) (user : User)
    (applicationId sessionId : String) : Action (Bool × Session) := do
  Program.log (.info
    "U2F. Prepare for step 2. Call FIDO U2F in order to start registration workflow")
  let started ←
    Fido.Ceremony.startRegistration configuration.metadata user.userId applicationId sessionId
  match started with
  | .ok challenge => pure (true, session.storeChallenge .enroll challenge)
  | .error failure => do
    Program.log (.error ("U2F. Prepare for step 2. Failed to start registration workflow: " ++
      failure.message))
    pure (false, session)

/-- Start to authenticate and remember the challenge; a server without a device for the user
leaves the step without a challenge. -/
def startAuthentication (configuration : Configuration) (session : Session) (user : User)
    (applicationId sessionId : String) : Action (Bool × Session) := do
  Program.log (.info
    "U2F. Prepare for step 2. Call FIDO U2F in order to start authentication workflow")
  let started ← Fido.Ceremony.startAuthentication configuration.metadata user.userId none
    applicationId sessionId
  match started with
  | .ok challenge => pure (true, session.storeChallenge .authenticate challenge)
  | .error .noDevice => do
    Program.log (.warn ("U2F. Prepare for step 2. FIDO server has no device for user " ++
      user.userName))
    pure (true, session.clearPending)
  | .error failure => do
    Program.log (.error ("U2F. Prepare for step 2. Failed to start authentication workflow: " ++
      failure.message))
    pure (false, session)

/-- Prepare the second step: look for devices and start the ceremony that fits. -/
def prepareDevice (configuration : Configuration) (session : Session) :
    Action (Bool × Session) := do
  Program.log (.info "U2F. Prepare for step 2")
  match session.id? with
  | none => do
    Program.log (.warn "U2F. Prepare for step 2. Failed to determine session_state")
    pure (false, session)
  | some sessionId =>
    match session.user with
    | none => do
      Program.log (.warn "U2F. Prepare for step 2. Failed to determine user name")
      pure (false, session)
    | some user =>
      match configuration.attributes.get? applicationIdKey with
      | none => do
        Program.log (.error ("U2F. Prepare for step 2. " ++ applicationIdKey ++
          " is not configured"))
        pure (false, session)
      | some applicationId => do
        let found ← directory (.findDevices user.inum applicationId)
        match found with
        | .error fault => do
          Program.log (.error
            ("U2F. Prepare for step 2. Failed to look up device registrations: " ++
              fault.message))
          pure (false, session)
        | .ok [] => startEnrollment configuration session user applicationId sessionId
        | .ok (_ :: _) => startAuthentication configuration session user applicationId sessionId

/-- Have the signed response judged. -/
def finish (configuration : Configuration) (workflow : Workflow) (user : User) (token : String) :
    Action Bool := do
  let judged ←
    match workflow with
    | .authenticate => do
      Program.log (.info
        "U2F. Authenticate for step 2. Call FIDO U2F in order to finish authentication workflow")
      Fido.Ceremony.finishAuthentication configuration.metadata user.userId token
    | .enroll => do
      Program.log (.info
        "U2F. Authenticate for step 2. Call FIDO U2F in order to finish registration workflow")
      Fido.Ceremony.finishRegistration configuration.metadata user.userId token
  match judged with
  | .ok true => pure true
  | .ok false => do
    Program.log (.warn ("U2F. Authenticate for step 2. Get invalid " ++ workflow.name ++
      " status from FIDO U2F server"))
    pure false
  | .error failure => do
    Program.log (.error ("U2F. Authenticate for step 2. Failed to finish " ++ workflow.name ++
      " workflow: " ++ failure.message))
    pure false

/-- Tell the directory about an enrolled device; that it refuses is only noted. -/
def recordEnrollment (configuration : Configuration) (user : User) : Action Unit :=
  match configuration.attributes.get? applicationIdKey with
  | none => pure ()
  | some applicationId => do
    let recorded ← directory (.record ⟨user.inum, applicationId, none⟩)
    match recorded with
    | .ok _ => pure ()
    | .error fault =>
      Program.log (.warn ("U2F. Failed to record enrolled device for user " ++ user.userName ++
        ": " ++ fault.message))

/-- Finish the started workflow, forget its challenge and record a new device. -/
def finishStarted (configuration : Configuration) (workflow : Workflow) (user : User)
    (token : String) (session : Session) : Action (Bool × Session) := do
  let accepted ← finish configuration workflow user token
  if accepted && workflow == .enroll then recordEnrollment configuration user
  pure (accepted, session.clearPending)

/-- The second step: check the submitted fields against the started workflow, then finish it. -/
def checkDevice (configuration : Configuration) (parameters : Parameters) (session : Session) :
    Action (Bool × Session) := do
  Program.log (.info "U2F. Authenticate for step 2")
  match parameters.firstValue? tokenField with
  | none => do
    Program.log (.warn "U2F. Authenticate for step 2. tokenResponse is empty")
    pure (false, session)
  | some token =>
    match parameters.firstValue? workflowField with
    | none => do
      Program.log (.warn "U2F. Authenticate for step 2. authMethod is empty")
      pure (false, session)
    | some tag =>
      match session.user with
      | none => do
        Program.log (.warn "U2F. Authenticate for step 2. Failed to determine user name")
        pure (false, session)
      | some user =>
        match Workflow.read tag with
        | .error unknown => do
          Program.log (.warn ("U2F. Authenticate for step 2. " ++ unknown.message))
          pure (false, session)
        | .ok workflow =>
          match session.startedWorkflow? with
          | none => do
            Program.log (.warn
              "U2F. Authenticate for step 2. No U2F workflow was started for this session")
            pure (false, session)
          | some started =>
            if started = workflow then finishStarted configuration workflow user token session
            else do
              Program.log (.warn ("U2F. Authenticate for step 2. Client submitted '" ++
                workflow.name ++ "' but '" ++ started.name ++ "' was started"))
              pure (false, session)

/-- Prepare a step: the first needs nothing, the second a ceremony, the third a note. -/
def prepare (configuration : Configuration) (session : Session) (step : UInt32) :
    Action (Bool × Session) :=
  if step = passwordStep then pure (true, session)
  else if step = deviceStep then prepareDevice configuration session
  else if step = acknowledgementStep then do
    Program.log (.info "U2F. Prepare for step 3")
    pure (true, session)
  else pure (false, session)

/-- Judge the form of a step. -/
def authenticate (configuration : Configuration) (credentials : Credentials)
    (parameters : Parameters) (session : Session) (step : UInt32) : Action (Bool × Session) :=
  if step = passwordStep then checkPassword credentials session
  else if step = deviceStep then checkDevice configuration parameters session
  else pure (false, session)

end DeviceMethod

/-- Password first, then the device. -/
def deviceMethod : Method surroundings where
  isValid _ := pure true
  alternative _ := pure none
  prepare configuration _ session step := DeviceMethod.prepare configuration session step
  authenticate := DeviceMethod.authenticate
  extraParameters _ _ := pure none
  stepCount _ := pure DeviceMethod.stepCount
  page _ step := pure (if step = deviceStep then DeviceMethod.devicePage else "")
  logout _ _ := pure true
  destroy _ := do
    Program.log (.info "U2F. Destroyed successfully")
    pure true

end TwoStepLogin.Login
