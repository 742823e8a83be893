import MoqQuic.Moqt.Registry

/-!
# MoqQuic.Moqt.Handshake

The handshake on a control stream: `handleSetupMessage` and `handleControlMessage` of
`controlstream.go`, and `SetRemoteRole` of `moqtsession.go`.

`ServeCS` hands every message it has parsed to one of the two handlers.  The state of
the control stream records what the handlers did, so that one can ask of a run which
messages reached the `Handler` and what had been accepted before.

`Close` closes the connection and returns when its streams are shut down, so the next
read of `ServeCS` fails and its loop ends.  A rejected setup message is thus the last
one, but the setup handler looks neither at the mode of the session nor for an unknown
role, and `SetRemoteRole` stores the role that it then refuses: `handshake_safe` says
that nothing else goes wrong.
-/

namespace MoqQuic.Moqt

open Wire

def DRAFT_04 : Nat := 0xff000004

def MOQERR_INTERNAL_ERROR : Nat := 0x1
def MOQERR_PROTOCOL_VIOLATION : Nat := 0x3

/-- `SERVER_MODE` and `CLIENT_MODE`. -/
inductive Mode where
  | server
  | client
  deriving DecidableEq, Repr

/-- What the handshake reads of a `MOQTSession`; `CreateMOQSession` returns no session
without a handler. -/
structure SessionConfig where
  mode : Mode
  localRole : Nat
  created : (createNewHandler localRole).isSome

/-! ## the checks on a setup message -/

def checkDraftSupport (setup : ClientSetup) : Bool := setup.supportedVersions.any (· == DRAFT_04)

/-- The outcomes of `GetRoleParam`: a parameter that is no `IntParameter` makes its type
assertion panic. -/
inductive RoleParam where
  | notFound
  | panics
  | value (role : Nat)
  deriving DecidableEq, Repr

/-- `GetRoleParam`; `Parameters.Parse` stores a parameter under its type. -/
def getRoleParam (params : Parameters) : RoleParam :=
  match params.lookup ROLE_PARAM with
  | none => .notFound
  | some (.string _ _) => .panics
  | some (.int _ pvalue) => .value pvalue

/-- The error of `SetRemoteRole`. -/
def roleError (localRole remoteRole : Nat) : Option String :=
  if localRole = ROLE_PUBLISHER then
    if remoteRole = ROLE_PUBLISHER then some "I am a Pub. Role Error" else none
  else if localRole = ROLE_SUBSCRIBER then
    if remoteRole = ROLE_SUBSCRIBER then some "I am a Sub. Role Error" else none
  else if localRole = ROLE_RELAY then none
  else some "Unknown Role"

/-! ## the control stream -/

/-- A `ControlStream` and its session, with a record of what was done. -/
structure ControlStream where
  isHandshakeDone : Bool := false
  remoteRole : Nat := 0
  /-- the calls of `Close` -/
  closes : List (Nat × String) := []
  /-- a type assertion has panicked -/
  panicked : Bool := false
  /-- the setup messages that completed the handshake -/
  accepted : List MOQTMessage := []
  /-- the messages given to a method of `Handler` -/
  dispatched : List MOQTMessage := []
  /-- the control messages written -/
  written : List MOQTMessage := []

namespace ControlStream

def close (cs : ControlStream) (code : Nat) (msg : String) : ControlStream :=
  { cs with closes := cs.closes ++ [(code, msg)] }

def writeControlMessage (cs : ControlStream) (m : MOQTMessage) : ControlStream :=
  { cs with written := cs.written ++ [m] }

/-- `SetRemoteRole`: the role is stored before it is checked. -/
def setRemoteRole (cs : ControlStream) (localRole role : Nat) : ControlStream × Option String :=
  ({ cs with remoteRole := role }, roleError localRole role)

/-- The handshake has succeeded with `m`. -/
def accept (cs : ControlStream) (m : MOQTMessage) : ControlStream :=
  { cs with isHandshakeDone := true, accepted := cs.accepted ++ [m] }

/-- What the two branches of `handleSetupMessage` share: the draft version, the role
parameter and the role are checked in turn. -/
def handleSetup (cs : ControlStream) (localRole : Nat) (m : MOQTMessage) (supported : Bool)
    (params : Parameters) (notSupported roleMissing : String) : ControlStream :=
  if supported = false then cs.close MOQERR_INTERNAL_ERROR notSupported
  else
    match getRoleParam params with
    | .notFound => cs.close MOQERR_INTERNAL_ERROR roleMissing
    | .panics => { cs with panicked := true }
    | .value role =>
      match cs.setRemoteRole localRole role with
      | (cs, some err) => cs.close MOQERR_PROTOCOL_VIOLATION err
      | (cs, none) => cs.accept m

/-- The answer to a `CLIENT_SETUP`. -/
def serverSetup (localRole : Nat) : ServerSetup where
  selectedVersion := DRAFT_04
  params := Finmap.singleton ROLE_PARAM (.int ROLE_PARAM localRole)

def handleSetupMessage (s : SessionConfig) (cs : ControlStream) : MOQTMessage → ControlStream
  | .clientSetup setup =>
    let cs' := cs.handleSetup s.localRole (.clientSetup setup) (checkDraftSupport setup)
      setup.params "CLIENT SETUP ERROR : PROTOCOL DRAFT NOT SUPPORTED"
      "CLIENT SETUP ERROR : ROLE PARAM MISSING"
    -- the other branches have returned
    if cs'.isHandshakeDone then cs'.writeControlMessage (.serverSetup (serverSetup s.localRole))
    else cs'
  | .serverSetup setup =>
    cs.handleSetup s.localRole (.serverSetup setup) (setup.selectedVersion == DRAFT_04)
      setup.params "SERVER SETUP ERRR : PROTOCOL DRAFT NOT SUPPORTED"
      "CLIENT SETUP ERROR : ROLE PARAM MISSING"
  | _ => cs

/-- The messages `handleControlMessage` has a method of `Handler` for. -/
def handled : MOQTMessage → Bool
  | .announce _ | .subscribe _ | .subscribeOk _ | .announceOk _ | .unsubscribe _ => true
  | .clientSetup _ | .serverSetup _ | .subscribeDone _ => false

def handleControlMessage (cs : ControlStream) (m : MOQTMessage) : ControlStream :=
  if handled m then { cs with dispatched := cs.dispatched ++ [m] } else cs

/-- The loop of `ServeCS` is over: the connection is closed, or the goroutine is gone. -/
def Over (cs : ControlStream) : Prop := cs.closes ≠ [] ∨ cs.panicked = true

instance (cs : ControlStream) : Decidable cs.Over :=
  inferInstanceAs (Decidable (cs.closes ≠ [] ∨ cs.panicked = true))

/-- One round of `ServeCS`. -/
def step (s : SessionConfig) (cs : ControlStream) (m : MOQTMessage) : ControlStream :=
  if cs.Over then cs
  else if cs.isHandshakeDone then cs.handleControlMessage m
  else cs.handleSetupMessage s m

/-! ## what a setup message may be -/

/-- The role that a setup message for `DRAFT_04` carries. -/
def offeredRole : MOQTMessage → Option Nat
  | .clientSetup setup => if checkDraftSupport setup then role setup.params else none
  | .serverSetup setup => if setup.selectedVersion == DRAFT_04 then role setup.params else none
  | _ => none
where
  role (params : Parameters) : Option Nat :=
    match getRoleParam params with
    | .value role => some role
    | .notFound | .panics => none

/-- The server expects a `CLIENT_SETUP`, the client a `SERVER_SETUP`. -/
def expected : Mode → MOQTMessage → Bool
  | .server, .clientSetup _ | .client, .serverSetup _ => true
  | _, _ => false

/-- Two publishers have nothing to tell each other, nor have two subscribers. -/
def Compatible (localRole role : Nat) : Prop :=
  (localRole = ROLE_PUBLISHER → role ≠ ROLE_PUBLISHER) ∧
    (localRole = ROLE_SUBSCRIBER → role ≠ ROLE_SUBSCRIBER)

instance (localRole role : Nat) : Decidable (Compatible localRole role) :=
  inferInstanceAs (Decidable (_ ∧ _))

/-- A setup message that the session should accept. -/
def RightSetup (s : SessionConfig) (m : MOQTMessage) : Prop :=
  expected s.mode m = true ∧ ∃ role ∈ offeredRole m,
    role ∈ [ROLE_PUBLISHER, ROLE_SUBSCRIBER, ROLE_RELAY] ∧ Compatible s.localRole role

instance (s : SessionConfig) (m : MOQTMessage) : Decidable (RightSetup s m) :=
  inferInstanceAs (Decidable (_ ∧ _))

/-- **Handshake safety** of a state: the `Handler` was called only if a right setup message
had been accepted, and a rejected one has left no role behind. -/
def Safe (s : SessionConfig) (cs : ControlStream) : Prop :=
  (cs.dispatched ≠ [] → ∃ m ∈ cs.accepted, RightSetup s m) ∧ (cs.closes ≠ [] → cs.remoteRole = 0)

instance (s : SessionConfig) (cs : ControlStream) : Decidable (Safe s cs) :=
  inferInstanceAs (Decidable (_ ∧ _))

/-- The condition on a message: before the handshake is done, a setup message for `DRAFT_04`
with a role is one that the session should accept. -/
def KeepsHandshake (s : SessionConfig) (cs : ControlStream) (m : MOQTMessage) : Prop :=
  cs.isHandshakeDone = false → (offeredRole m).isSome → RightSetup s m

instance (s : SessionConfig) (cs : ControlStream) (m : MOQTMessage) :
    Decidable (KeepsHandshake s cs m) :=
  inferInstanceAs (Decidable (_ → _))

/-! ## what a message can do -/

/-- What `handleSetupMessage` can make of a message. -/
inductive SetupOutcome (s : SessionConfig) (cs : ControlStream) (m : MOQTMessage) :
    ControlStream → Prop
  | ignored : SetupOutcome s cs m cs
  | panicked : SetupOutcome s cs m { cs with panicked := true }
  | refused (code : Nat) (msg : String) : SetupOutcome s cs m (cs.close code msg)
  | roleRefused {role : Nat} {err : String} (hrole : offeredRole m = some role)
      (herr : roleError s.localRole role = some err) :
      SetupOutcome s cs m ({ cs with remoteRole := role }.close MOQERR_PROTOCOL_VIOLATION err)
  | accepted {role : Nat} (hrole : offeredRole m = some role)
      (herr : roleError s.localRole role = none) (written : List MOQTMessage) :
      SetupOutcome s cs m { { cs with remoteRole := role }.accept m with written := written }

theorem setupOutcome_handleSetup (s : SessionConfig) (cs : ControlStream) (m : MOQTMessage)
    (supported : Bool) (params : Parameters) (notSupported roleMissing : String)
    (hrole : offeredRole m = if supported then offeredRole.role params else none) :
    SetupOutcome s cs m
      (cs.handleSetup s.localRole m supported params notSupported roleMissing) := by
  unfold handleSetup
  cases supported with
  | false => exact .refused _ _
  | true =>
    rw [if_pos rfl, offeredRole.role] at hrole
    rw [if_neg (by simp)]
    cases hparam : getRoleParam params with
    | notFound => exact .refused _ _
    | panics => exact .panicked
    | value role =>
      rw [hparam] at hrole
      cases herr : roleError s.localRole role with
      | none =>
        simp only [setRemoteRole, herr]
        exact .accepted hrole herr cs.written
      | some err =>
        simp only [setRemoteRole, herr]
        exact .roleRefused hrole herr

variable {cs : ControlStream} {s : SessionConfig} {m : MOQTMessage}

theorem setupOutcome_handleSetupMessage (s : SessionConfig) (hdone : cs.isHandshakeDone = false)
    (m : MOQTMessage) :
    SetupOutcome s cs m (cs.handleSetupMessage s m) := by
  cases m with
  | clientSetup setup =>
    simp only [handleSetupMessage]
    generalize hcs' : cs.handleSetup _ _ _ _ _ _ = cs'
    have houtcome : SetupOutcome s cs (.clientSetup setup) cs' :=
      hcs' ▸ setupOutcome_handleSetup s cs _ _ _ _ _ rfl
    -- only the accepted message is answered
    cases houtcome with
    | ignored =>
      rw [if_neg (by simp [hdone])]
      exact .ignored
    | panicked =>
      rw [if_neg (by simp [hdone])]
      exact .panicked
    | refused code msg =>
      rw [if_neg (by simp [close, hdone])]
      exact .refused code msg
    | roleRefused hrole herr =>
      rw [if_neg (by simp [close, hdone])]
      exact .roleRefused hrole herr
    | accepted hrole herr written =>
      exact .accepted hrole herr (written ++ [.serverSetup (serverSetup s.localRole)])
  | serverSetup setup => exact setupOutcome_handleSetup s cs _ _ _ _ _ rfl
  | announce _ | announceOk _ | subscribe _ | subscribeOk _ | unsubscribe _ | subscribeDone _ =>
    exact .ignored

/-- Nothing is received once the loop is over. -/
theorem run_over (s : SessionConfig) (h : cs.Over) (ms : List MOQTMessage) :
    Machine.run (step s) cs ms = cs := by
  induction ms with
  | nil => rfl
  | cons m ms ih => rw [Machine.run_cons, step, if_pos h, ih]

/-- A right setup message is not refused for its role. -/
theorem roleError_of_rightSetup {role : Nat} (h : RightSetup s m)
    (hrole : offeredRole m = some role) :
    roleError s.localRole role = none := by
  obtain ⟨-, role', hrole', -, hpub, hsub⟩ := h
  have heq : role' = role := by
    rw [hrole] at hrole'
    exact (Option.some.inj hrole').symm
  subst heq
  have hcreated := s.created
  unfold createNewHandler at hcreated
  unfold roleError
  grind

/-! ## runs -/

/-- What the rounds keep: before the handshake is done nothing is dispatched and no role is
stored, and afterwards a right setup message has been accepted and nothing rejected. -/
structure Inv (s : SessionConfig) (cs : ControlStream) : Prop where
  before : cs.isHandshakeDone = false → cs.dispatched = [] ∧ cs.remoteRole = 0
  after : cs.isHandshakeDone = true → cs.closes = [] ∧ ∃ m ∈ cs.accepted, RightSetup s m

theorem inv_init (s : SessionConfig) : Inv s {} where
  before := by simp
  after := by simp

theorem Inv.safe (h : Inv s cs) : Safe s cs := by
  cases hdone : cs.isHandshakeDone with
  | false => simp [Safe, h.before hdone]
  | true =>
    obtain ⟨hcloses, hright⟩ := h.after hdone
    exact ⟨fun _ => hright, fun hne => absurd hcloses hne⟩

theorem inv_handleControlMessage (h : Inv s cs) (hdone : cs.isHandshakeDone = true)
    (m : MOQTMessage) : Inv s (cs.handleControlMessage m) := by
  unfold handleControlMessage
  split
  · exact ⟨fun hnot => absurd (hdone.symm.trans hnot) (by simp), h.after⟩
  · exact h

theorem inv_handleSetupMessage (h : Inv s cs) (hopen : ¬ cs.Over)
    (hdone : cs.isHandshakeDone = false) (hright : (offeredRole m).isSome → RightSetup s m) :
    Inv s (cs.handleSetupMessage s m) := by
  have hcloses : cs.closes = [] := by
    by_contra hne
    exact hopen (.inl hne)
  generalize hcs' : cs.handleSetupMessage s m = cs'
  have houtcome : SetupOutcome s cs m cs' := hcs' ▸ setupOutcome_handleSetupMessage s hdone m
  cases houtcome with
  | ignored => exact h
  | panicked => exact ⟨h.before, h.after⟩
  | refused code msg => exact ⟨h.before, fun hd => absurd hd (by simp [close, hdone])⟩
  | roleRefused hrole herr =>
    have hnone := roleError_of_rightSetup (hright (by simp [hrole])) hrole
    exact absurd herr (by simp [hnone])
  | accepted hrole herr written =>
    have hm : RightSetup s m := hright (by simp [hrole])
    exact ⟨fun hd => absurd hd (by simp [accept]), fun _ => ⟨hcloses, m, by simp [accept], hm⟩⟩

theorem inv_step (h : Inv s cs) (hright : KeepsHandshake s cs m) : Inv s (cs.step s m) := by
  unfold step
  split_ifs with hover hdone
  · exact h
  · exact inv_handleControlMessage h hdone m
  · have hnot : cs.isHandshakeDone = false := by simpa using hdone
    exact inv_handleSetupMessage h hover hnot (hright hnot)

/-- A relay that listens. -/
def relayServer : SessionConfig := ⟨.server, ROLE_RELAY, by decide⟩

/-- A publisher that listens. -/
def pubServer : SessionConfig := ⟨.server, ROLE_PUBLISHER, by decide⟩

/-- A role parameter alone. -/
def roleOnly (role : Nat) : Parameters := Finmap.singleton ROLE_PARAM (.int ROLE_PARAM role)

/-- A relay is joined by a publisher that announces a namespace. -/
def pubJoins : List MOQTMessage :=
  [.clientSetup { supportedVersions := [DRAFT_04], params := roleOnly ROLE_PUBLISHER },
    .announce { trackNameSpace := [97] }]

end ControlStream

end MoqQuic.Moqt
