import Chansey.Authentication.Guessing
import Chansey.Lib.Run

/-!
# Guessing is bounded

* **`guessing_bounded`**: guessing is bounded in a run whose steps are apart. **`six_at_once`**: six
  logins at once compare six wrong passwords; two verifications at once accept a one-time password
  twice.
-/

namespace Chansey

open Remote Run

namespace UserAccount

/-! ## What is bounded -/

/-- **At most five wrong passwords before the lock, none under it; at most three wrong codes for a
one-time password, which is accepted once, in time, and not when others have replaced it.** -/
structure GuessingBounded (s : UserAccount) : Prop where
  passwords : s.wrongPasswords ≤ MAX_LOGIN_ATTEMPTS
  locked : s.comparedLocked = 0
  codes : ∀ issue, s.wrongCodes issue ≤ MAX_OTP_ATTEMPTS
  once : ∀ issue, s.accepted issue ≤ 1
  late : s.acceptedLate = 0

end UserAccount

namespace AuthTask

def comparesPassword : AuthTask → Bool
  | verifyingPassword _ _ _ => true
  | _ => false

def countsPassword : AuthTask → Bool
  | loggingFailed _ | loggingLocked _ _ | updatingFailed _ _ => true
  | _ => false

def comparesOtp : AuthTask → Bool
  | verifyingOtp _ _ _ _ => true
  | _ => false

def countsOtp : AuthTask → Bool
  | countingOtp _ => true
  | _ => false

/-- The request has read a one-time password that it may accept. -/
def holdsOtp : AuthTask → Bool
  | verifyingOtp _ _ _ _ | clearingOtp _ _ => true
  | _ => false

def InTime (now : Instant) : AuthTask → Prop
  | loggingLocked _ lockedUntil => now < lockedUntil
  | updatingFailed _ lockedUntil => ∀ e ∈ lockedUntil, now < e
  | verifyingOtp _ _ user _ => ∀ e ∈ user.otpExpiresAt, now ≤ e
  | clearingOtp otpExpiresAt _ => ∀ e ∈ otpExpiresAt, now ≤ e
  | _ => True

end AuthTask

namespace UserAccount

variable (password : PasswordService)

def NoOther (s : UserAccount) (number : ℕ) (p : AuthTask → Bool) : Prop :=
  ∀ other task, other ≠ number → s.tasks other = some task → p task = false

def TaskApart (s : UserAccount) (number : ℕ) (answer : AuthAnswer) : AuthTask → Prop
  | .verifyingPassword given hash _ => answer.fate = .answered →
      password.compare given hash = false → s.NoOther number AuthTask.countsPassword
  | .updatingFailed _ _ => answer.fate.reached = true ∧ s.NoOther number AuthTask.comparesPassword
  | .verifyingOtp otp hash _ _ => answer.fate = .answered → password.compare otp hash = false →
      s.NoOther number AuthTask.countsOtp
  | .countingOtp _ => answer.fate.reached = true ∧ s.NoOther number AuthTask.comparesOtp
  | .updatingOtp _ _ | .clearingOtp _ _ => answer.fate.reached = true →
      s.NoOther number AuthTask.holdsOtp
  | _ => True

/-- **The requests are apart.** No process ends between a wrong comparison and its write, and no time
passes past what a request has in hand. -/
def Apart (s : UserAccount) : AuthEvent → Prop
  | .pass ms => ∀ number task, s.tasks number = some task → task.InTime (s.now + ms)
  | .getAuthenticatedUser _ | .verifyOtp _ | .resendOtp => True
  | .advance number answer =>
      ∀ task, s.tasks number = some task → s.TaskApart password number answer task
  | .crash number => ∀ task, s.tasks number = some task →
      task.countsPassword = false ∧ task.countsOtp = false

/-! ## The invariant -/

/-- The one-time password is the one in the row, and has not expired. -/
def Current (s : UserAccount) (otpExpiresAt : Option Instant) (issue : ℕ) : Prop :=
  issue = s.issue ∧ s.user.otpHash.isSome = true ∧ ∀ e ∈ otpExpiresAt, s.now ≤ e

/-- What a request knows, by the call that it waits for. -/
def Held (s : UserAccount) : AuthTask → Prop
  | .verifyingPassword _ _ user =>
    s.user.failedLoginAttempts ≤ user.failedLoginAttempts ∧ s.locked = false
  | .loggingFailed newFailedAttempts =>
    s.wrongPasswords ≤ newFailedAttempts ∧ s.wrongPasswords ≤ MAX_LOGIN_ATTEMPTS
  | .loggingLocked newFailedAttempts lockedUntil =>
    s.wrongPasswords ≤ newFailedAttempts ∧ s.wrongPasswords ≤ MAX_LOGIN_ATTEMPTS ∧
      s.now < lockedUntil
  | .updatingFailed newFailedAttempts lockedUntil =>
    s.wrongPasswords ≤ newFailedAttempts ∧ s.wrongPasswords ≤ MAX_LOGIN_ATTEMPTS ∧
      (∀ e ∈ lockedUntil, s.now < e) ∧ (lockedUntil = none → newFailedAttempts < MAX_LOGIN_ATTEMPTS)
  | .verifyingOtp _ _ user issue => s.Current user.otpExpiresAt issue ∧
      s.user.otpFailedAttempts ≤ user.otpFailedAttempts ∧ user.otpFailedAttempts < MAX_OTP_ATTEMPTS
  | .clearingOtp otpExpiresAt issue => s.Current otpExpiresAt issue
  | .countingOtp otpFailedAttempts =>
    s.user.otpHash.isSome = true → s.wrongCodes s.issue ≤ otpFailedAttempts
  | _ => True

def Alone (s : UserAccount) (p : AuthTask → Bool) : Prop :=
  ∀ number task, s.tasks number = some task → p task = true → s.NoOther number p

def Nobody (s : UserAccount) (p : AuthTask → Bool) : Prop :=
  ∀ number task, s.tasks number = some task → p task = false

structure LoginGuard (s : UserAccount) : Prop where
  alone : s.Alone AuthTask.countsPassword
  counted : s.Nobody AuthTask.countsPassword →
    s.wrongPasswords ≤ s.user.failedLoginAttempts ∧ s.wrongPasswords < MAX_LOGIN_ATTEMPTS
  locked : s.comparedLocked = 0

structure OtpGuard (s : UserAccount) : Prop where
  alone : s.Alone AuthTask.countsOtp
  counted : s.Nobody AuthTask.countsOtp → s.user.otpHash.isSome = true →
    s.wrongCodes s.issue ≤ s.user.otpFailedAttempts
  codes : ∀ issue, s.wrongCodes issue ≤ MAX_OTP_ATTEMPTS
  unissued : ∀ issue, s.issue < issue → s.wrongCodes issue = 0 ∧ s.accepted issue = 0
  unused : s.user.otpHash.isSome = true → s.accepted s.issue = 0
  once : ∀ issue, s.accepted issue ≤ 1
  late : s.acceptedLate = 0

/-- **Every request knows where the counts stand.** -/
structure Guarded (s : UserAccount) : Prop where
  fresh : ∀ number, s.started ≤ number → s.tasks number = none
  held : ∀ number task, s.tasks number = some task → s.Held task
  login : s.LoginGuard
  otp : s.OtpGuard

section Steps

variable {password} {s t : UserAccount} {number : ℕ} {old : AuthTask} {task : Option AuthTask}
  {p : AuthTask → Bool}

theorem Guarded.bounded (h : Guarded s) : GuessingBounded s := by
  refine ⟨?_, h.login.locked, h.otp.codes, h.otp.once, h.otp.late⟩
  by_cases hnobody : s.Nobody AuthTask.countsPassword
  · exact (h.login.counted hnobody).2.le
  · obtain ⟨number, task, htask, hcnt⟩ : ∃ number task, s.tasks number = some task ∧
        task.countsPassword = true := by
      by_contra hnone
      refine hnobody fun number task htask => ?_
      by_contra hcnt
      exact hnone ⟨number, task, htask, by simpa using hcnt⟩
    have hheld := h.held number task htask
    cases task with
    | loggingFailed => exact hheld.2
    | loggingLocked | updatingFailed => exact hheld.2.1
    | _ => cases hcnt

theorem Guarded.lt_started (h : Guarded s) (htask : s.tasks number = some old) :
    number < s.started := by
  by_contra hle
  cases htask.symm.trans (h.fresh number (not_lt.mp hle))

/-! ### One request goes on -/

/-- The tasks of `t` are those of `s`, but for the request `number`. -/
def Moved (s t : UserAccount) (number : ℕ) (task : Option AuthTask) : Prop :=
  t.tasks = Function.update s.tasks number task

theorem Moved.other (h : Moved s t number task) {other : ℕ} (hother : other ≠ number) :
    t.tasks other = s.tasks other := by
  rw [h, Function.update_of_ne hother]

theorem Moved.self (h : Moved s t number task) : t.tasks number = task := by
  rw [h, Function.update_self]

theorem Alone.moved (h : s.Alone p) (hmoved : Moved s t number task)
    (hnew : ∀ new, task = some new → p new = true → s.NoOther number p) : t.Alone p := by
  intro number' task' htask' hp other task'' hother htask''
  by_cases hnum : number' = number
  · subst hnum
    rw [hmoved.other hother] at htask''
    exact hnew task' (hmoved.self.symm.trans htask') hp other task'' hother htask''
  · rw [hmoved.other hnum] at htask'
    by_cases hnum' : other = number
    · subst hnum'
      by_contra hp'
      have hnew' := hnew task'' (hmoved.self.symm.trans htask'') (by simpa using hp')
      rw [hnew' number' task' hnum htask'] at hp
      cases hp
    · rw [hmoved.other hnum'] at htask''
      exact h number' task' htask' hp other task'' hother htask''

theorem Nobody.noOther (h : t.Nobody p) (hmoved : Moved s t number task) : s.NoOther number p :=
  fun other task' hother htask' => h other task' ((hmoved.other hother).trans htask')

theorem NoOther.nobody (h : s.NoOther number p) (htask : s.tasks number = some old)
    (hold : p old = false) : s.Nobody p := by
  intro other task' htask'
  by_cases hother : other = number
  · subst hother
    cases (htask.symm.trans htask')
    exact hold
  · exact h other task' hother htask'

theorem LoginGuard.moved (h : s.LoginGuard) (htask : s.tasks number = some old)
    (hmoved : Moved s t number task) (hwrong : t.wrongPasswords = s.wrongPasswords)
    (hfail : t.user.failedLoginAttempts = s.user.failedLoginAttempts)
    (hlocked : t.comparedLocked = s.comparedLocked)
    (hnew : ∀ new, task = some new → new.countsPassword = true → old.countsPassword = true)
    (hold : old.countsPassword = true → ∃ new, task = some new ∧ new.countsPassword = true) :
    t.LoginGuard := by
  refine ⟨h.alone.moved hmoved fun new hnew' hcnt => ?_, fun hnobody => ?_, hlocked.trans h.locked⟩
  · exact h.alone number old htask (hnew new hnew' hcnt)
  · rw [hwrong, hfail]
    refine h.counted ((hnobody.noOther hmoved).nobody htask ?_)
    by_contra hcnt
    obtain ⟨new, hnew', hcnt'⟩ := hold (by simpa using hcnt)
    rw [hnobody number new (hmoved.self.trans hnew')] at hcnt'
    cases hcnt'

theorem OtpGuard.moved (h : s.OtpGuard) (htask : s.tasks number = some old)
    (hmoved : Moved s t number task) (hcodes : t.wrongCodes = s.wrongCodes)
    (hacc : t.accepted = s.accepted) (hlate : t.acceptedLate = s.acceptedLate)
    (hissue : t.issue = s.issue) (hhash : t.user.otpHash = s.user.otpHash)
    (hfail : t.user.otpFailedAttempts = s.user.otpFailedAttempts)
    (hnew : ∀ new, task = some new → new.countsOtp = false) (hold : old.countsOtp = false) :
    t.OtpGuard := by
  refine ⟨h.alone.moved hmoved fun new hnew' hcnt => ?_, fun hnobody => ?_, ?_, ?_, ?_, ?_, ?_⟩
  · rw [hnew new hnew'] at hcnt
    cases hcnt
  · rw [hcodes, hissue, hhash, hfail]
    exact h.counted ((hnobody.noOther hmoved).nobody htask hold)
  · rw [hcodes]
    exact h.codes
  · rw [hcodes, hacc, hissue]
    exact h.unissued
  · rw [hacc, hissue, hhash]
    exact h.unused
  · rw [hacc]
    exact h.once
  · exact hlate.trans h.late

theorem Guarded.moved (h : Guarded s) (htask : s.tasks number = some old)
    (hmoved : Moved s t number task) (hstd : t.started = s.started)
    (hoths : ∀ other task', other ≠ number → s.tasks other = some task' → s.Held task' →
      t.Held task')
    (hnew : ∀ new, task = some new → t.Held new) (hlogin : t.LoginGuard) (hotp : t.OtpGuard) :
    Guarded t := by
  have hlt := h.lt_started htask
  refine ⟨fun number' hfresh => ?_, fun number' task' htask' => ?_, hlogin, hotp⟩
  · rw [hmoved.other (by omega)]
    exact h.fresh number' (hstd ▸ hfresh)
  · by_cases hnum : number' = number
    · subst hnum
      exact hnew task' (hmoved.self.symm.trans htask')
    · rw [hmoved.other hnum] at htask'
      exact hoths number' task' hnum htask' (h.held number' task' htask')

@[simp] theorem held_setTask (number : ℕ) (task : Option AuthTask) (task' : AuthTask) :
    (s.setTask number task).Held task' ↔ s.Held task' := by
  cases task' <;> exact Iff.rfl

theorem Guarded.goesOn (h : Guarded s) (htask : s.tasks number = some old)
    (hheld : ∀ new, task = some new → s.Held new)
    (hnew : ∀ new, task = some new → new.countsPassword = true → old.countsPassword = true)
    (hold : old.countsPassword = true → ∃ new, task = some new ∧ new.countsPassword = true)
    (hnewOtp : ∀ new, task = some new → new.countsOtp = false) (holdOtp : old.countsOtp = false) :
    Guarded (s.setTask number task) := by
  exact h.moved htask rfl rfl (fun _ task' _ _ hheld' => (held_setTask number task task').mpr hheld')
    (fun new hnew' => (held_setTask number task new).mpr (hheld new hnew'))
    (h.login.moved htask rfl rfl rfl rfl hnew hold)
    (h.otp.moved htask rfl rfl rfl rfl rfl rfl rfl hnewOtp holdOtp)

theorem Guarded.finish (h : Guarded s) (htask : s.tasks number = some old)
    (hold : old.countsPassword = false) (holdOtp : old.countsOtp = false) :
    Guarded (s.finish number) := by
  refine h.goesOn htask (fun _ hnew => ?_) (fun _ hnew => ?_) (fun hcnt => ?_) (fun _ hnew => ?_)
    holdOtp
  · cases hnew
  · cases hnew
  · rw [hold] at hcnt
    cases hcnt
  · cases hnew

variable {new : AuthTask} {given hash : String} {user : AuthUser} {issue : ℕ}
  {otpExpiresAt : Option Instant} {answer : AuthAnswer}

theorem Guarded.goTo (h : Guarded s) (htask : s.tasks number = some old)
    (hold : old.countsPassword = false) (holdOtp : old.countsOtp = false) (hheld : s.Held new)
    (hnew : new.countsPassword = false) (hnewOtp : new.countsOtp = false) :
    Guarded (s.goTo number new) := by
  refine h.goesOn htask (fun new' heq => ?_) (fun new' heq hcnt => ?_) (fun hcnt => ?_)
    (fun new' heq => ?_) holdOtp
  · cases heq
    exact hheld
  · cases heq
    rw [hnew] at hcnt
    cases hcnt
  · rw [hold] at hcnt
    cases hcnt
  · cases heq
    exact hnewOtp

/-! ### What is compared and written -/

theorem Guarded.wrongPassword (h : Guarded s)
    (htask : s.tasks number = some (.verifyingPassword given hash user))
    (hapart : s.NoOther number AuthTask.countsPassword) :
    Guarded (({ s with wrongPasswords := s.wrongPasswords + 1 }).goTo number
      (.loggingFailed (user.failedLoginAttempts + 1))) := by
  obtain ⟨_, -⟩ := h.held number _ htask
  obtain ⟨_, hlt⟩ := h.login.counted (hapart.nobody htask rfl)
  refine h.moved htask rfl rfl (fun other task' hother htask' hheld => ?_) (fun new hnew => ?_)
    ⟨h.login.alone.moved rfl fun _ _ _ => hapart, fun hnobody => ?_, h.login.locked⟩
    (h.otp.moved htask rfl rfl rfl rfl rfl rfl rfl (fun new hnew => ?_) rfl)
  · have hcnt := hapart other task' hother htask'
    cases task' with
    | loggingFailed | loggingLocked | updatingFailed => cases hcnt
    | _ => exact hheld
  · cases hnew
    refine ⟨?_, hlt⟩
    show s.wrongPasswords + 1 ≤ user.failedLoginAttempts + 1
    omega
  · cases hnobody number _ (Function.update_self _ _ _)
  · cases hnew
    rfl

theorem Guarded.updateFailed (h : Guarded s) {n : ℕ} {lockedUntil : Option Instant}
    (htask : s.tasks number = some (.updatingFailed n lockedUntil))
    (hapart : s.NoOther number AuthTask.comparesPassword) :
    Guarded ((s.updateFailed n lockedUntil).finish number) := by
  obtain ⟨hle, -, hlock, hfew⟩ := h.held number _ htask
  have halone := h.login.alone number _ htask rfl
  refine h.moved htask rfl rfl (fun other task' hother htask' hheld => ?_)
    (fun new hnew => by cases hnew)
    ⟨h.login.alone.moved rfl fun new hnew => (by cases hnew), fun _ => ?_, h.login.locked⟩
    (h.otp.moved htask rfl rfl rfl rfl rfl rfl rfl (fun new hnew => by cases hnew) rfl)
  · have hcnt := halone other task' hother htask'
    have hcompares := hapart other task' hother htask'
    cases task' with
    | loggingFailed | loggingLocked | updatingFailed => cases hcnt
    | verifyingPassword => cases hcompares
    | _ => exact hheld
  · show (if lockedUntil.any (s.now < ·) then 0 else s.wrongPasswords) ≤ n ∧
      (if lockedUntil.any (s.now < ·) then 0 else s.wrongPasswords) < MAX_LOGIN_ATTEMPTS
    cases lockedUntil with
    | none => exact ⟨hle, hle.trans_lt (hfew rfl)⟩
    | some e =>
      rw [if_pos (by simpa using hlock e rfl)]
      exact ⟨Nat.zero_le n, by decide⟩

theorem Held.reset {task' : AuthTask} (h : s.Held task') (loginTime : Instant) :
    (s.updateLogin loginTime).Held task' := by
  cases task' with
  | verifyingPassword => exact ⟨Nat.zero_le _, rfl⟩
  | loggingFailed n => exact ⟨Nat.zero_le n, Nat.zero_le _⟩
  | loggingLocked n | updatingFailed n => exact ⟨Nat.zero_le n, Nat.zero_le _, h.2.2⟩
  | _ => exact h

theorem Guarded.updateLogin (h : Guarded s) {loginTime : Instant}
    (htask : s.tasks number = some (.updatingLogin loginTime)) :
    Guarded ((s.updateLogin loginTime).finish number) := by
  refine h.moved htask rfl rfl (fun other task' hother htask' hheld => ?_)
    (fun new hnew => by cases hnew)
    ⟨h.login.alone.moved rfl fun new hnew => (by cases hnew), fun _ => ?_, h.login.locked⟩
    (h.otp.moved htask rfl rfl rfl rfl rfl rfl rfl (fun new hnew => by cases hnew) rfl)
  · exact (held_setTask number none task').mpr (hheld.reset loginTime)
  · exact ⟨Nat.zero_le _, (by decide : 0 < MAX_LOGIN_ATTEMPTS)⟩

theorem Guarded.updateOtp (h : Guarded s) {otpHash : String} {otpExpiresAt : Instant}
    (htask : s.tasks number = some (.updatingOtp otpHash otpExpiresAt))
    (hapart : s.NoOther number AuthTask.holdsOtp) :
    Guarded ((s.updateOtp otpHash otpExpiresAt).finish number) := by
  obtain ⟨hnone, hunused⟩ := h.otp.unissued (s.issue + 1) (Nat.lt_succ_self _)
  refine h.moved htask rfl rfl (fun other task' hother htask' hheld => ?_)
    (fun new hnew => by cases hnew)
    (h.login.moved htask rfl rfl rfl rfl (fun new hnew => by cases hnew) fun hcnt => by cases hcnt)
    ⟨h.otp.alone.moved rfl fun new hnew => (by cases hnew), fun _ _ => hnone.le, h.otp.codes,
      fun issue hissue => h.otp.unissued issue (Nat.lt_of_succ_lt hissue), fun _ => hunused,
      h.otp.once, h.otp.late⟩
  have hholds := hapart other task' hother htask'
  cases task' with
  | verifyingOtp | clearingOtp => cases hholds
  | countingOtp n =>
    intro _
    show s.wrongCodes (s.issue + 1) ≤ n
    rw [hnone]
    exact Nat.zero_le n
  | _ => exact hheld

theorem Guarded.wrongOtp (h : Guarded s) {otp hash : String}
    (htask : s.tasks number = some (.verifyingOtp otp hash user issue))
    (hapart : s.NoOther number AuthTask.countsOtp) :
    Guarded (({ s with
      wrongCodes := Function.update s.wrongCodes issue (s.wrongCodes issue + 1) }).goTo number
        (.countingOtp (user.otpFailedAttempts + 1))) := by
  obtain ⟨⟨rfl, hhere, -⟩, _, _⟩ := h.held number _ htask
  have hcount := h.otp.counted (hapart.nobody htask rfl) hhere
  refine h.moved htask rfl rfl (fun other task' hother htask' hheld => ?_) (fun new hnew => ?_)
    (h.login.moved htask rfl rfl rfl rfl (fun new hnew hcnt => ?_) fun hcnt => by cases hcnt)
    ⟨h.otp.alone.moved rfl fun _ _ _ => hapart, fun hnobody => ?_, fun issue => ?_,
      fun issue hissue => ?_, h.otp.unused, h.otp.once, h.otp.late⟩
  · have hcnt := hapart other task' hother htask'
    cases task' with
    | countingOtp => cases hcnt
    | _ => exact hheld
  · cases hnew
    intro _
    show Function.update s.wrongCodes s.issue (s.wrongCodes s.issue + 1) s.issue ≤ user.otpFailedAttempts + 1
    rw [Function.update_self]
    omega
  · cases hnew
    cases hcnt
  · cases hnobody number _ (Function.update_self _ _ _)
  · show Function.update s.wrongCodes s.issue (s.wrongCodes s.issue + 1) issue ≤ MAX_OTP_ATTEMPTS
    by_cases hissue : issue = s.issue
    · subst hissue
      rw [Function.update_self]
      omega
    · rw [Function.update_of_ne hissue]
      exact h.otp.codes issue
  · show Function.update s.wrongCodes s.issue _ issue = 0 ∧ s.accepted issue = 0
    have hissue' : s.issue < issue := hissue
    rw [Function.update_of_ne hissue'.ne']
    exact h.otp.unissued issue hissue'

theorem Guarded.updateOtpFailed (h : Guarded s) {n : ℕ}
    (htask : s.tasks number = some (.countingOtp n))
    (hapart : s.NoOther number AuthTask.comparesOtp) :
    Guarded ((s.updateOtpFailed n).finish number) := by
  have hcount : s.user.otpHash.isSome = true → s.wrongCodes s.issue ≤ n := h.held number _ htask
  refine h.moved htask rfl rfl (fun other task' hother htask' hheld => ?_)
    (fun new hnew => by cases hnew)
    (h.login.moved htask rfl rfl rfl rfl (fun new hnew => by cases hnew) fun hcnt => by cases hcnt)
    ⟨h.otp.alone.moved rfl fun new hnew => (by cases hnew), fun _ => hcount, h.otp.codes,
      h.otp.unissued, h.otp.unused, h.otp.once, h.otp.late⟩
  have hcompares := hapart other task' hother htask'
  cases task' with
  | verifyingOtp => cases hcompares
  | _ => exact hheld

theorem Guarded.clearOtp (h : Guarded s)
    (htask : s.tasks number = some (.clearingOtp otpExpiresAt issue))
    (hapart : s.NoOther number AuthTask.holdsOtp) : Guarded (s.clearOtp.finish number) := by
  refine h.moved htask rfl rfl (fun other task' hother htask' hheld => ?_)
    (fun new hnew => by cases hnew)
    ⟨h.login.alone.moved rfl fun new hnew => (by cases hnew), fun _ =>
      ⟨Nat.zero_le _, (by decide : 0 < MAX_LOGIN_ATTEMPTS)⟩, h.login.locked⟩
    ⟨h.otp.alone.moved rfl fun new hnew => (by cases hnew), fun _ hsome => (by cases hsome),
      h.otp.codes, h.otp.unissued, fun hsome => (by cases hsome), h.otp.once, h.otp.late⟩
  have hholds := hapart other task' hother htask'
  have hreset := hheld.reset s.now
  cases task' with
  | verifyingOtp | clearingOtp => cases hholds
  | countingOtp => exact fun hsome => (by cases hsome)
  | _ => exact hreset

theorem Guarded.accept (h : Guarded s) (hgone : s.user.otpHash = none)
    (hfirst : s.accepted s.issue = 0) (hinTime : ∀ e ∈ otpExpiresAt, s.now ≤ e) :
    Guarded (s.accept otpExpiresAt s.issue) := by
  refine ⟨h.fresh, fun number task htask => ?_, ⟨h.login.alone, h.login.counted, h.login.locked⟩,
    ⟨h.otp.alone, h.otp.counted, h.otp.codes, fun issue hissue => ?_, fun hsome => ?_,
      fun issue => ?_, ?_⟩⟩
  · have hheld := h.held number task htask
    cases task <;> exact hheld
  · have hissue' : s.issue < issue := hissue
    show s.wrongCodes issue = 0 ∧ Function.update s.accepted s.issue _ issue = 0
    rw [Function.update_of_ne hissue'.ne']
    exact h.otp.unissued issue hissue'
  · have hsome' : s.user.otpHash.isSome = true := hsome
    rw [hgone] at hsome'
    cases hsome'
  · show Function.update s.accepted s.issue _ issue ≤ 1
    by_cases hissue : issue = s.issue
    · subst hissue
      rw [Function.update_self, hfirst]
    · rw [Function.update_of_ne hissue]
      exact h.otp.once issue
  · refine (if_neg ?_).trans h.otp.late
    rintro (hissue | hlate)
    · exact hissue rfl
    · cases otpExpiresAt with
      | none => cases hlate
      | some e => exact absurd (by simpa using hlate) (not_lt.mpr (hinTime e rfl))

/-! ### The requests -/

section

variable (h : Guarded s)

include h

theorem Guarded.findUser {given given' : String}
    (htask : s.tasks number = some (.findingUser given')) : Guarded (s.findUser number given) := by
  unfold UserAccount.findUser
  split_ifs with hlocked
  · exact h.finish htask rfl rfl
  · cases s.user.passwordHash.filter (· ≠ "") with
    | none => exact h.finish htask rfl rfl
    | some =>
      exact h.goTo htask rfl rfl ⟨le_rfl, Bool.eq_false_iff.mpr hlocked⟩ rfl rfl

theorem Guarded.rightPassword (htask : s.tasks number = some (.verifyingPassword given hash user)) :
    Guarded (s.passwordVerified number user true) := by
  unfold passwordVerified
  rw [if_pos rfl]
  split_ifs with hverified hotp
  · exact h.finish htask rfl rfl
  all_goals exact h.goTo htask rfl rfl trivial rfl rfl

theorem Guarded.verifyingPassword
    (htask : s.tasks number = some (.verifyingPassword given hash user))
    (hapart : s.TaskApart password number answer (.verifyingPassword given hash user)) :
    Guarded (s.advance password number answer (.verifyingPassword given hash user)) := by
  have hunlocked : s.locked = false := (h.held number _ htask).2
  dsimp only [advance]
  split_ifs with hansd
  · cases hvalid : password.compare given hash with
    | true =>
      have hsame : s.comparePassword true = s := by
        simp [comparePassword, hunlocked]
      rw [hsame]
      exact h.rightPassword htask
    | false =>
      have hwrong : s.comparePassword false =
          { s with wrongPasswords := s.wrongPasswords + 1 } := by
        simp [comparePassword, hunlocked]
      rw [hwrong]
      exact h.wrongPassword htask (hapart hansd hvalid)
  · exact h.finish htask rfl rfl

theorem Guarded.logging (htask : s.tasks number = some old) (hold : old.countsPassword = true)
    (holdOtp : old.countsOtp = false) (hheld : s.Held new) (hnew : new.countsPassword = true)
    (hnewOtp : new.countsOtp = false) : Guarded (s.goTo number new) := by
  refine h.goesOn htask (fun new' heq => ?_) (fun _ _ _ => hold) (fun _ => ⟨new, rfl, hnew⟩)
    (fun new' heq => ?_) holdOtp
  · cases heq
    exact hheld
  · cases heq
    exact hnewOtp

theorem Guarded.findOtp {otp otp' : String} (htask : s.tasks number = some (.findingOtp otp')) :
    Guarded (s.findOtp number otp) := by
  unfold UserAccount.findOtp
  cases hhash : s.user.otpHash.filter (· ≠ "") with
  | none => exact h.finish htask rfl rfl
  | some =>
    dsimp only
    split_ifs with hmany hexpired
    · exact h.finish htask rfl rfl
    · exact h.finish htask rfl rfl
    · refine h.goTo htask rfl rfl ⟨⟨rfl, ?_, fun e he => ?_⟩, le_rfl, not_le.mp hmany⟩ rfl rfl
      · obtain ⟨hsome, -⟩ := Option.filter_eq_some_iff.mp hhash
        rw [hsome]
        rfl
      · by_contra hlate
        refine hexpired ?_
        rw [Option.mem_def.mp he]
        simpa using hlate

theorem Guarded.verifyingOtp {otp hash : String}
    (htask : s.tasks number = some (.verifyingOtp otp hash user issue))
    (hapart : s.TaskApart password number answer (.verifyingOtp otp hash user issue)) :
    Guarded (s.advance password number answer (.verifyingOtp otp hash user issue)) := by
  have hcur : s.Current user.otpExpiresAt issue := (h.held number _ htask).1
  dsimp only [advance]
  split_ifs with hansd hvalid
  · rw [hvalid]
    exact h.goTo htask rfl rfl hcur rfl rfl
  · rw [Bool.eq_false_iff.mpr hvalid]
    exact h.wrongOtp htask (hapart hansd (Bool.eq_false_iff.mpr hvalid))
  · exact h.finish htask rfl rfl

theorem Guarded.clearingOtp (htask : s.tasks number = some (.clearingOtp otpExpiresAt issue))
    (hapart : s.TaskApart password number answer (.clearingOtp otpExpiresAt issue)) :
    Guarded (s.advance password number answer (.clearingOtp otpExpiresAt issue)) := by
  obtain ⟨rfl, hhere, hinTime⟩ : s.Current otpExpiresAt issue := h.held number _ htask
  dsimp only [advance]
  cases hfate : answer.fate with
  | answered =>
    have hcleared := h.clearOtp htask (hapart (by rw [hfate]; rfl))
    exact hcleared.accept rfl (h.otp.unused hhere) hinTime
  | lost => exact h.clearOtp htask (hapart (by rw [hfate]; rfl))
  | refused => exact h.finish htask rfl rfl

theorem Guarded.advance (htask : s.tasks number = some old)
    (hapart : s.TaskApart password number answer old) :
    Guarded (s.advance password number answer old) := by
  cases old with
  | findingUser =>
    dsimp only [UserAccount.advance]
    split_ifs with hansd
    · exact h.findUser htask
    · exact h.finish htask rfl rfl
  | verifyingPassword => exact h.verifyingPassword htask hapart
  | loggingFailed =>
    obtain ⟨hle, hmax⟩ := h.held number _ htask
    dsimp only [UserAccount.advance]
    split_ifs with hmany
    · exact h.logging htask rfl rfl ⟨hle, hmax, lt_add_of_pos_right s.now (by decide)⟩ rfl rfl
    · refine h.logging htask rfl rfl ⟨hle, hmax, fun e he => ?_, fun _ => not_le.mp hmany⟩ rfl rfl
      cases he
  | loggingLocked =>
    obtain ⟨hle, hmax, hlock⟩ := h.held number _ htask
    refine h.logging htask rfl rfl ⟨hle, hmax, fun e he => ?_, fun hnone => ?_⟩ rfl rfl
    · exact Option.mem_some_iff.mp he ▸ hlock
    · cases hnone
  | updatingFailed =>
    dsimp only [UserAccount.advance]
    rw [if_pos hapart.1]
    exact h.updateFailed htask hapart.2
  | updatingLogin =>
    dsimp only [UserAccount.advance]
    split_ifs with hrch
    · exact h.updateLogin htask
    · exact h.finish htask rfl rfl
  | hashingOtp =>
    dsimp only [UserAccount.advance]
    split_ifs with hansd
    · exact h.goTo htask rfl rfl trivial rfl rfl
    · exact h.finish htask rfl rfl
  | updatingOtp =>
    dsimp only [UserAccount.advance]
    split_ifs with hrch
    · exact h.updateOtp htask (hapart hrch)
    · exact h.finish htask rfl rfl
  | findingOtp =>
    dsimp only [UserAccount.advance]
    split_ifs with hansd
    · exact h.findOtp htask
    · exact h.finish htask rfl rfl
  | verifyingOtp => exact h.verifyingOtp htask hapart
  | countingOtp =>
    dsimp only [UserAccount.advance]
    rw [if_pos hapart.1]
    exact h.updateOtpFailed htask hapart.2
  | clearingOtp => exact h.clearingOtp htask hapart
  | findingResend =>
    dsimp only [UserAccount.advance, findResend]
    split_ifs with hansd hrecent
    · exact h.finish htask rfl rfl
    · exact h.goTo htask rfl rfl trivial rfl rfl
    · exact h.finish htask rfl rfl

end

/-! ### The other events -/

theorem Guarded.start (h : Guarded s) (hheld : s.Held new) (hnew : new.countsPassword = false)
    (hnewOtp : new.countsOtp = false) : Guarded (s.start new) := by
  have hmoved : Moved s (s.start new) s.started (some new) := rfl
  have hsame : ∀ task', s.Held task' → (s.start new).Held task' := by
    intro task' hheld'
    cases task' <;> exact hheld'
  -- who counted before counts still
  have hnobody : ∀ p : AuthTask → Bool, (s.start new).Nobody p → s.Nobody p := by
    intro p hnobody number task htask
    have hne : number ≠ s.started := (h.lt_started htask).ne
    exact hnobody number task ((hmoved.other hne).trans htask)
  refine ⟨fun number hfresh => ?_, fun number task htask => ?_,
    ⟨h.login.alone.moved hmoved fun new' heq hcnt => ?_,
      fun hnone => h.login.counted (hnobody _ hnone), h.login.locked⟩,
    ⟨h.otp.alone.moved hmoved fun new' heq hcnt => ?_,
      fun hnone => h.otp.counted (hnobody _ hnone), h.otp.codes, h.otp.unissued, h.otp.unused,
      h.otp.once, h.otp.late⟩⟩
  · have hlt : s.started < number := hfresh
    rw [hmoved.other hlt.ne']
    exact h.fresh number hlt.le
  · by_cases hnum : number = s.started
    · subst hnum
      cases (hmoved.self.symm.trans htask)
      exact hsame new hheld
    · rw [hmoved.other hnum] at htask
      exact hsame task (h.held number task htask)
  · cases heq
    rw [hnew] at hcnt
    cases hcnt
  · cases heq
    rw [hnewOtp] at hcnt
    cases hcnt

theorem Guarded.pass (h : Guarded s) {ms : ℕ} (hapart : s.Apart password (.pass ms)) :
    Guarded { s with now := s.now + ms } := by
  refine ⟨h.fresh, fun number task htask => ?_, ⟨h.login.alone, h.login.counted, h.login.locked⟩,
    ⟨h.otp.alone, h.otp.counted, h.otp.codes, h.otp.unissued, h.otp.unused, h.otp.once, h.otp.late⟩⟩
  have hheld := h.held number task htask
  have hinTime := hapart number task htask
  cases task with
  | verifyingPassword given hash user =>
    obtain ⟨hle, hunlocked⟩ := hheld
    refine ⟨hle, ?_⟩
    show s.user.lockedUntil.any (s.now + ms < ·) = false
    have hbef : s.user.lockedUntil.any (s.now < ·) = false := hunlocked
    cases hlock : s.user.lockedUntil with
    | none => rfl
    | some =>
      rw [hlock, Option.any_some, decide_eq_false_iff_not, not_lt] at hbef
      rw [Option.any_some, decide_eq_false_iff_not, not_lt]
      exact hbef.trans (le_add_of_nonneg_right (Int.natCast_nonneg ms))
  | loggingLocked | clearingOtp => exact ⟨hheld.1, hheld.2.1, hinTime⟩
  | updatingFailed => exact ⟨hheld.1, hheld.2.1, hinTime, hheld.2.2.2⟩
  | verifyingOtp => exact ⟨⟨hheld.1.1, hheld.1.2.1, hinTime⟩, hheld.2⟩
  | _ => exact hheld

theorem Guarded.step (h : Guarded s) {e : AuthEvent} (hapart : s.Apart password e) :
    Guarded (s.step password e) := by
  cases e with
  | pass => exact h.pass hapart
  | crash number =>
    show Guarded (s.finish number)
    cases htask : s.tasks number with
    | none =>
      have hsame : s.finish number = s := by
        unfold UserAccount.finish setTask
        rw [Function.update_eq_self_iff.mpr htask.symm]
      rw [hsame]
      exact h
    | some task => exact h.finish htask (hapart task htask).1 (hapart task htask).2
  | advance number answer =>
    cases htask : s.tasks number with
    | none =>
      have hsame : s.step password (.advance number answer) = s := by
        simp only [UserAccount.step, htask]
      rw [hsame]
      exact h
    | some task =>
      have hadv : s.step password (.advance number answer) =
          s.advance password number answer task := by
        simp only [UserAccount.step, htask]
      rw [hadv]
      exact h.advance htask (hapart task htask)
  | _ => exact h.start trivial rfl rfl

theorem guarded_start (now : Instant) (user : AuthUser) : Guarded { now := now, user := user } := by
  refine ⟨fun _ _ => rfl, fun number task htask => (by cases htask),
    ⟨fun number task htask => (by cases htask),
      fun _ => ⟨Nat.zero_le _, (by decide : 0 < MAX_LOGIN_ATTEMPTS)⟩, rfl⟩,
    ⟨fun number task htask => (by cases htask), fun _ _ => Nat.zero_le _, fun _ => Nat.zero_le _,
      fun _ _ => ⟨rfl, rfl⟩, fun _ => rfl, fun _ => Nat.zero_le _, rfl⟩⟩

end Steps

/-! ## Every run -/

/-- **In every run whose requests are apart, guessing is bounded.** -/
theorem guessing_bounded (now : Instant) (user : AuthUser) (es : List AuthEvent)
    (hapart : Throughout (step password) (Apart password) { now := now, user := user } es)
    (before after : List AuthEvent) (hes : es = before ++ after) :
    GuessingBounded (before.foldl (step password) { now := now, user := user }) := by
  subst hes
  exact (Throughout.invariant Guarded (fun s e h hstep => h.step hstep) (guarded_start now user)
    hapart.left).bounded

def plainPassword : PasswordService where
  compare := fun given hash => hash == "hash:" ++ given
  otpLifetimeMs := 600000

def knownUser : AuthUser where
  passwordHash := some "hash:secret"
  emailVerified := true

def otpSentUser : AuthUser where
  passwordHash := some "hash:secret"
  emailVerified := true
  otpEnabled := true
  otpHash := some "hash:123456"
  otpExpiresAt := some 600000

/-- A wrong password and a wrong code are compared in turns, and then the right code. -/
def guesses : List AuthEvent :=
  [.getAuthenticatedUser "guess", .verifyOtp "000000", .advance 0 {}, .advance 1 {}, .advance 0 {},
    .advance 1 {}, .advance 0 {}, .advance 1 {}, .advance 0 {}, .verifyOtp "123456", .advance 2 {},
    .advance 2 {}, .advance 2 {}]

theorem noOther_of_three {s : UserAccount} {number : ℕ} {p : AuthTask → Bool}
    (hrest : ∀ other, s.tasks (other + 3) = none)
    (h : ∀ other < 3, other ≠ number → (s.tasks other).all (p · = false)) : s.NoOther number p := by
  intro other task hne htask
  rcases Nat.lt_or_ge other 3 with hlt | hge
  · have hall := h other hlt hne
    rw [htask] at hall
    exact of_decide_eq_true hall
  · obtain ⟨k, rfl⟩ := Nat.exists_eq_add_of_le' hge
    rw [hrest] at htask
    cases htask

theorem guessing_bounded_guesses :
    GuessingBounded (guesses.foldl (step plainPassword) { now := 0, user := otpSentUser }) := by
  refine guessing_bounded plainPassword 0 otpSentUser guesses ⟨trivial, trivial, ?_, ?_, ?_, ?_, ?_,
    ?_, ?_, trivial, ?_, ?_, ?_, trivial⟩ guesses [] (List.append_nil _).symm
  all_goals (intro task htask; cases htask)
  · trivial
  · trivial
  · exact fun _ _ => noOther_of_three (fun _ => rfl) (by decide +kernel)
  · exact fun _ _ => noOther_of_three (fun _ => rfl) (by decide +kernel)
  · trivial
  · exact ⟨rfl, noOther_of_three (fun _ => rfl) (by decide +kernel)⟩
  · exact ⟨rfl, noOther_of_three (fun _ => rfl) (by decide +kernel)⟩
  · trivial
  · exact fun _ hfalse => absurd hfalse (by decide +kernel)
  · exact fun _ => noOther_of_three (fun _ => rfl) (by decide +kernel)

def sixAtOnce : List AuthEvent :=
  (List.replicate 6 (AuthEvent.getAuthenticatedUser "guess")) ++
    ((List.range 6).map fun number => AuthEvent.advance number {}) ++
    ((List.range 6).map fun number => AuthEvent.advance number {})

def verifiedTwice : List AuthEvent :=
  [.verifyOtp "123456", .verifyOtp "123456", .advance 0 {}, .advance 1 {}, .advance 0 {},
    .advance 1 {}, .advance 0 {}, .advance 1 {}]

/-- **Six wrong passwords are compared at once, and a one-time password is accepted twice.** -/
theorem six_at_once :
    (sixAtOnce.foldl (step plainPassword) { user := knownUser }).wrongPasswords = 6 ∧
      (verifiedTwice.foldl (step plainPassword) { user := otpSentUser }).accepted 0 = 2 ∧
      ¬ ∀ (password : PasswordService) (now : Instant) (user : AuthUser)
        (es before after : List AuthEvent), es = before ++ after →
          GuessingBounded (before.foldl (step password) { now := now, user := user }) := by
  have hsix : (sixAtOnce.foldl (step plainPassword) { user := knownUser }).wrongPasswords = 6 := by
    decide +kernel
  refine ⟨hsix, by decide +kernel, fun h => ?_⟩
  have hle := (h plainPassword 0 knownUser sixAtOnce sixAtOnce [] (List.append_nil _).symm).passwords
  rw [hsix] at hle
  exact absurd hle (by decide)

end UserAccount

end Chansey
