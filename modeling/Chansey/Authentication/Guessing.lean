import Chansey.Domain
import Chansey.Lib.Remote

/-!
# Logins and one-time passwords

The requests of one account. Each reads the row of the user, compares what it was given with what it
has read, and writes what follows; other requests come in between.

* `getAuthenticatedUser`, `verifyOtp`, `resendOtp`, call by call: `advance`. What follows the last
  write of a request is left out.
-/

namespace Chansey

open Remote

def MAX_LOGIN_ATTEMPTS : ℕ := 5

def LOCKOUT_DURATION_MINUTES : ℤ := 15

def MAX_OTP_ATTEMPTS : ℕ := 3

def OTP_COOLDOWN_MS : ℤ := 60000

/-- What the password service is configured with, and `bcrypt`. -/
structure PasswordService where
  /-- `compare` of a text with a hash. -/
  compare : String → String → Bool
  otpLifetimeMs : ℤ

structure AuthUser where
  passwordHash : Option String := none
  emailVerified : Bool := false
  otpEnabled : Bool := false
  otpHash : Option String := none
  otpExpiresAt : Option Instant := none
  otpFailedAttempts : ℕ := 0
  failedLoginAttempts : ℕ := 0
  lockedUntil : Option Instant := none
  lastLoginAt : Option Instant := none

inductive AuthTask where
  | findingUser (password : String)
  | verifyingPassword (password hash : String) (user : AuthUser)
  | loggingFailed (newFailedAttempts : ℕ)
  | loggingLocked (newFailedAttempts : ℕ) (lockedUntil : Instant)
  | updatingFailed (newFailedAttempts : ℕ) (lockedUntil : Option Instant)
  | updatingLogin (loginTime : Instant)
  /-- `sendLoginOtp` has drawn a code. -/
  | hashingOtp
  | updatingOtp (otpHash : String) (otpExpiresAt : Instant)
  | findingOtp (otp : String)
  /-- `issue` is the number of the one-time password that was read. -/
  | verifyingOtp (otp hash : String) (user : AuthUser) (issue : ℕ)
  | countingOtp (otpFailedAttempts : ℕ)
  | clearingOtp (otpExpiresAt : Option Instant) (issue : ℕ)
  | findingResend

structure UserAccount where
  now : Instant := 0
  user : AuthUser
  tasks : ℕ → Option AuthTask := fun _ => none
  started : ℕ := 0
  /-- The number of the one-time password that was issued last. -/
  issue : ℕ := 0
  /-- The wrong passwords that were compared since the account was locked last, or its count reset. -/
  wrongPasswords : ℕ := 0
  comparedLocked : ℕ := 0
  wrongCodes : ℕ → ℕ := fun _ => 0
  accepted : ℕ → ℕ := fun _ => 0
  /-- How many were accepted after they had expired, or others had replaced them. -/
  acceptedLate : ℕ := 0

structure AuthAnswer where
  fate : Fate String := .answered
  otpHash : String := ""

inductive AuthEvent where
  | pass (ms : ℕ)
  | getAuthenticatedUser (password : String)
  | verifyOtp (otp : String)
  | resendOtp
  | advance (number : ℕ) (answer : AuthAnswer)
  | crash (number : ℕ)

namespace UserAccount

variable (password : PasswordService)

def setTask (s : UserAccount) (number : ℕ) (task : Option AuthTask) : UserAccount :=
  { s with tasks := Function.update s.tasks number task }

def finish (s : UserAccount) (number : ℕ) : UserAccount := s.setTask number none

def goTo (s : UserAccount) (number : ℕ) (task : AuthTask) : UserAccount := s.setTask number (some task)

def start (s : UserAccount) (task : AuthTask) : UserAccount :=
  { s.setTask s.started (some task) with started := s.started + 1 }

def locked (s : UserAccount) : Bool := s.user.lockedUntil.any (s.now < ·)

/-! ## What is compared and written -/

def comparePassword (s : UserAccount) (isPasswordValid : Bool) : UserAccount :=
  { s with
    comparedLocked := if s.locked then s.comparedLocked + 1 else s.comparedLocked
    wrongPasswords := if isPasswordValid then s.wrongPasswords else s.wrongPasswords + 1 }

def updateFailed (s : UserAccount) (newFailedAttempts : ℕ) (lockedUntil : Option Instant) : UserAccount :=
  { s with
    user := { s.user with
      failedLoginAttempts := newFailedAttempts
      lockedUntil := if lockedUntil.isSome then lockedUntil else s.user.lockedUntil }
    wrongPasswords := if lockedUntil.any (s.now < ·) then 0 else s.wrongPasswords }

def updateLogin (s : UserAccount) (loginTime : Instant) : UserAccount :=
  { s with
    user := { s.user with
      failedLoginAttempts := 0
      lockedUntil := none
      lastLoginAt := some loginTime }
    wrongPasswords := 0 }

/-- `sendLoginOtp` writes the hash of its code. -/
def updateOtp (s : UserAccount) (otpHash : String) (otpExpiresAt : Instant) : UserAccount :=
  { s with
    user := { s.user with
      otpHash := some otpHash
      otpExpiresAt := some otpExpiresAt
      otpFailedAttempts := 0 }
    issue := s.issue + 1 }

def compareOtp (s : UserAccount) (issue : ℕ) (isValidOtp : Bool) : UserAccount :=
  if isValidOtp then s
  else { s with wrongCodes := Function.update s.wrongCodes issue (s.wrongCodes issue + 1) }

def updateOtpFailed (s : UserAccount) (otpFailedAttempts : ℕ) : UserAccount :=
  { s with user := { s.user with otpFailedAttempts := otpFailedAttempts } }

def clearOtp (s : UserAccount) : UserAccount :=
  { s with
    user := { s.user with
      otpHash := none
      otpExpiresAt := none
      otpFailedAttempts := 0
      failedLoginAttempts := 0
      lockedUntil := none
      lastLoginAt := some s.now }
    wrongPasswords := 0 }

def accept (s : UserAccount) (otpExpiresAt : Option Instant) (issue : ℕ) : UserAccount :=
  { s with
    accepted := Function.update s.accepted issue (s.accepted issue + 1)
    acceptedLate :=
      if s.issue ≠ issue ∨ otpExpiresAt.any (· < s.now) = true then s.acceptedLate + 1
      else s.acceptedLate }

/-! ## The requests -/

def findUser (s : UserAccount) (number : ℕ) (given : String) : UserAccount :=
  if s.locked then s.finish number
  else
    match s.user.passwordHash.filter (· ≠ "") with
    | none => s.finish number
    | some hash => s.goTo number (.verifyingPassword given hash s.user)

/-- The password was compared: `getAuthenticatedUser` goes on with the user that it read. -/
def passwordVerified (s : UserAccount) (number : ℕ) (user : AuthUser) (isPasswordValid : Bool) :
    UserAccount :=
  if isPasswordValid then
    if !user.emailVerified then s.finish number
    else if user.otpEnabled then s.goTo number .hashingOtp
    else s.goTo number (.updatingLogin s.now)
  else s.goTo number (.loggingFailed (user.failedLoginAttempts + 1))

def findOtp (s : UserAccount) (number : ℕ) (otp : String) : UserAccount :=
  match s.user.otpHash.filter (· ≠ "") with
  | none => s.finish number
  | some hash =>
    if MAX_OTP_ATTEMPTS ≤ s.user.otpFailedAttempts then s.finish number
    else if s.user.otpExpiresAt.any (· < s.now) then s.finish number
    else s.goTo number (.verifyingOtp otp hash s.user s.issue)

/-- `resendOtp` has read the user: it waits between two codes. -/
def findResend (s : UserAccount) (number : ℕ) : UserAccount :=
  if s.user.otpExpiresAt.any fun e => s.now - (e - password.otpLifetimeMs) < OTP_COOLDOWN_MS then
    s.finish number
  else s.goTo number .hashingOtp

/-- A request from one call to the next. A call that fails ends it, but for the audit log. -/
def advance (s : UserAccount) (number : ℕ) (answer : AuthAnswer) : AuthTask → UserAccount
  | .findingUser given =>
    if answer.fate = .answered then s.findUser number given else s.finish number
  | .verifyingPassword given hash user =>
    if answer.fate = .answered then
      (s.comparePassword (password.compare given hash)).passwordVerified number user
        (password.compare given hash)
    else s.finish number
  | .loggingFailed newFailedAttempts =>
    if MAX_LOGIN_ATTEMPTS ≤ newFailedAttempts then
      s.goTo number (.loggingLocked newFailedAttempts
        (s.now + LOCKOUT_DURATION_MINUTES * 60 * 1000))
    else s.goTo number (.updatingFailed newFailedAttempts none)
  | .loggingLocked newFailedAttempts lockedUntil =>
    s.goTo number (.updatingFailed newFailedAttempts (some lockedUntil))
  | .updatingFailed newFailedAttempts lockedUntil =>
    (if answer.fate.reached then s.updateFailed newFailedAttempts lockedUntil else s).finish number
  | .updatingLogin loginTime =>
    (if answer.fate.reached then s.updateLogin loginTime else s).finish number
  | .hashingOtp =>
    if answer.fate = .answered then
      s.goTo number (.updatingOtp answer.otpHash (s.now + password.otpLifetimeMs))
    else s.finish number
  | .updatingOtp otpHash otpExpiresAt =>
    (if answer.fate.reached then s.updateOtp otpHash otpExpiresAt else s).finish number
  | .findingOtp otp => if answer.fate = .answered then s.findOtp number otp else s.finish number
  | .verifyingOtp otp hash user issue =>
    if answer.fate = .answered then
      (s.compareOtp issue (password.compare otp hash)).goTo number
        (if password.compare otp hash then .clearingOtp user.otpExpiresAt issue
        else .countingOtp (user.otpFailedAttempts + 1))
    else s.finish number
  | .countingOtp otpFailedAttempts =>
    (if answer.fate.reached then s.updateOtpFailed otpFailedAttempts else s).finish number
  | .clearingOtp otpExpiresAt issue =>
    match answer.fate with
    | .answered => (s.clearOtp.accept otpExpiresAt issue).finish number
    | .lost _ => s.clearOtp.finish number
    | .refused _ => s.finish number
  | .findingResend =>
    if answer.fate = .answered then s.findResend password number else s.finish number

def step (s : UserAccount) : AuthEvent → UserAccount
  | .pass ms => { s with now := s.now + ms }
  | .getAuthenticatedUser given => s.start (.findingUser given)
  | .verifyOtp otp => s.start (.findingOtp otp)
  | .resendOtp => s.start .findingResend
  | .advance number answer =>
    match s.tasks number with
    | none => s
    | some task => s.advance password number answer task
  | .crash number => s.finish number

end UserAccount

end Chansey
